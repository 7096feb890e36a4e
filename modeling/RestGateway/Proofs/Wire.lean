import Mathlib
import RestGateway.CallCommand
import RestGateway.Outcome
import RestGateway.Proofs.Json.Records
import RestGateway.Proofs.Server.Calls

/-! Calls, outcomes and health are read as they are written: a field that is left out comes back as
it was, and so the server gets the call that the command makes. A payload may just as well be the
text of the object. -/
namespace RestGateway
open Json

/-! ### Calls and outcomes that can be written -/

/-- The numbers of a call are integers in range, and its headers a dictionary. -/
structure Call.IsExact (c : Call) : Prop where
  payload : c.payload.IsExact
  headers : c.headers.Ascending
  timeout : ∀ n ∈ c.timeoutMillis, (n : Int) ≤ greatestInteger

structure Outcome.IsExact (o : Outcome) : Prop where
  data : (Json.object o.data).IsExact
  metadata : o.metadata.Ascending

/-! ### Names of fields -/

namespace Json

lemma names_optionalField {α : Type} (name : String) (json : α → Json) (o : Option α) :
    ((optionalField name json o).map Prod.fst).Sublist [name] := by
  cases o with
  | none => exact List.nil_sublist _
  | some x => exact List.Sublist.refl _

lemma names_dictField (name : String) (d : Dict String) :
    ((dictField name d).map Prod.fst).Sublist [name] := by
  rw [dictField]
  split_ifs
  · exact List.nil_sublist _
  · exact List.Sublist.refl _

lemma readsBack_nullableText (s : String) :
    ReadsBack (readNullable readText) (string s).text (some s) :=
  (readsBack_readText s).nullable rfl (by decide)

lemma readsBack_nullableNatural {n : Nat} (h : (n : Int) ≤ greatestInteger) :
    ReadsBack (readNullable readNatural) (ofNat n).text (some n) := by
  have hread := readsBack_readNatural h
  obtain ⟨c, cs, hcs, hc⟩ := exists_digit_cons n
  have htext : (ofNat n).text = c :: cs := by
    rw [ofNat, text_integer, integerText, if_neg (by omega), Int.natAbs_natCast, hcs]
  rw [htext] at hread ⊢
  obtain ⟨hblank, hn⟩ : isBlank c = false ∧ c ≠ 'n' :=
    of_isDigit (p := fun c => isBlank c = false ∧ c ≠ 'n') (by decide) hc
  exact hread.nullable hblank hn

end Json

/-! ### Calls -/

namespace Call

/-- The fields behind the payload. -/
def laterFields (c : Call) : List (String × Json) :=
  dictField "headers" c.headers ++ optionalField "correlation_id" .string c.correlationId ++
    optionalField "workflow_id" .string c.workflowId ++
    optionalField "step_id" .string c.stepId ++ optionalField "timeout_ms" ofNat c.timeoutMillis

lemma names_laterFields (c : Call) : (c.laterFields.map Prod.fst).Sublist
    ["headers", "correlation_id", "workflow_id", "step_id", "timeout_ms"] := by
  simp only [laterFields, List.map_append]
  exact ((((names_dictField _ _).append (names_optionalField _ _ _)).append
    (names_optionalField _ _ _)).append (names_optionalField _ _ _)).append
    (names_optionalField _ _ _)

lemma fills_laterFields {c : Call} (hascending : c.headers.Ascending)
    (hlimit : ∀ n ∈ c.timeoutMillis, (n : Int) ≤ greatestInteger) :
    Fills shape ⟨c.method, c.payload, [], none, none, none, none⟩ c.laterFields c := by
  obtain ⟨method, payload, headers, correlationId, workflowId, stepId, timeoutMillis⟩ := c
  have hheaders : Fills shape ⟨method, payload, [], none, none, none, none⟩
      (dictField "headers" headers) ⟨method, payload, headers, none, none, none, none⟩ :=
    .table rfl rfl rfl hascending
  have hcorrelation : Fills shape ⟨method, payload, headers, none, none, none, none⟩
      (optionalField "correlation_id" .string correlationId)
      ⟨method, payload, headers, correlationId, none, none, none⟩ :=
    .nullable rfl rfl rfl fun x _ => readsBack_nullableText x
  have hworkflow : Fills shape ⟨method, payload, headers, correlationId, none, none, none⟩
      (optionalField "workflow_id" .string workflowId)
      ⟨method, payload, headers, correlationId, workflowId, none, none⟩ :=
    .nullable rfl rfl rfl fun x _ => readsBack_nullableText x
  have hstep : Fills shape ⟨method, payload, headers, correlationId, workflowId, none, none⟩
      (optionalField "step_id" .string stepId)
      ⟨method, payload, headers, correlationId, workflowId, stepId, none⟩ :=
    .nullable rfl rfl rfl fun x _ => readsBack_nullableText x
  have htimeout : Fills shape ⟨method, payload, headers, correlationId, workflowId, stepId, none⟩
      (optionalField "timeout_ms" ofNat timeoutMillis)
      ⟨method, payload, headers, correlationId, workflowId, stepId, timeoutMillis⟩ :=
    .nullable rfl rfl rfl fun x hx => readsBack_nullableNatural (hlimit x hx)
  exact (((hheaders.append hcorrelation).append hworkflow).append hstep).append htimeout

lemma payload_depth_le {c : Call} (h : c.json.depth < 128) : c.payload.depth ≤ depthInRecord := by
  have hle : c.payload.depth ≤ depthOfMembers c.fields :=
    depth_le_of_mem_members (m := ("payload", c.payload)) (by simp [fields])
  rw [json, depth] at h
  rw [depthInRecord, greatestDepth]
  omega

/-- Whatever the payload is read as, the rest of the call is read as it is written. -/
lemma decode_text_of_readsBack {c : Call} (hheaders : c.headers.Ascending)
    (htimeout : ∀ n ∈ c.timeoutMillis, (n : Int) ≤ greatestInteger) {payload : Json}
    (h : ReadsBack (readValue depthInRecord) c.payload.text payload) :
    decode c.text = .ok { c with payload } := by
  have hlater : Fills shape ⟨c.method, payload, [], none, none, none, none⟩ c.laterFields
      { c with payload } := fills_laterFields (c := { c with payload }) hheaders htimeout
  have hfills : Fills shape shape.absent c.fields { c with payload } :=
    .member rfl (readsBack_readText c.method) (.member rfl h hlater)
  have hnames : (c.fields.map Prod.fst).Nodup :=
    (((names_laterFields c).cons_cons "payload").cons_cons "method").nodup (by decide)
  exact hfills.decodeWith_compact hnames (by simp [shape, fields])

/-- A call is read as it is written. -/
theorem decode_text {c : Call} (hc : c.IsExact) (hd : c.json.depth < 128) :
    decode c.text = .ok c :=
  decode_text_of_readsBack hc.headers hc.timeout
    (readsBack_readValue hc.payload (payload_depth_le hd))

lemma without_payload (c : Call) :
    Dict.without c.fields ["payload"] = ("method", .string c.method) :: c.laterFields := by
  have hkept : c.laterFields.filter (fun field => ! ["payload"].contains field.1) =
      c.laterFields := by
    refine List.filter_eq_self.mpr fun field hfield => ?_
    have hname := (names_laterFields c).subset (List.mem_map_of_mem hfield)
    have hothers : ∀ name ∈ ["headers", "correlation_id", "workflow_id", "step_id", "timeout_ms"],
        (! ["payload"].contains name) = true := by decide
    exact hothers _ hname
  change ("method", .string c.method) :: c.laterFields.filter _ = _
  rw [hkept]

/-- Without a payload the payload is null. -/
theorem decode_without_payload {c : Call} (hc : c.IsExact) :
    decode (Json.object (Dict.without c.fields ["payload"])).compact =
      .ok { c with payload := .null } := by
  have hlater : Fills shape ⟨c.method, .null, [], none, none, none, none⟩ c.laterFields
      { c with payload := .null } :=
    fills_laterFields (c := { c with payload := .null }) hc.headers hc.timeout
  have hfills : Fills shape shape.absent (("method", .string c.method) :: c.laterFields)
      { c with payload := .null } := .member rfl (readsBack_readText c.method) hlater
  have hnames : ((("method", Json.string c.method) :: c.laterFields).map Prod.fst).Nodup :=
    ((names_laterFields c).cons_cons "method").nodup (by decide)
  rw [without_payload]
  exact hfills.decodeWith_compact hnames (by simp [shape])

/-! ### Payloads -/

lemma isBlank_object (members : Dict Json) :
    Text.isBlank (Json.object members).compact = false := by
  obtain ⟨cs, hcs⟩ : ∃ cs, (Json.object members).text = '\x7b' :: cs := by
    cases members with
    | nil => exact ⟨['\x7d'], rfl⟩
    | cons first rest => exact ⟨_, text_object_cons first rest⟩
  have hbrace : Text.isBlankChar '\x7b' = false := by decide +kernel
  rw [Text.isBlank, compact, String.toList_ofList, hcs, List.all_cons, hbrace, Bool.false_and]

/-- The text of an object has the entries of the object. -/
lemma entries_text (c : Call) {members : Dict Json} (hm : (Json.object members).IsExact)
    (hd : (Json.object members).depth < 128) :
    { c with payload := .string (Json.object members).compact }.entries = .ok members := by
  have hle : (Json.object members).depth ≤ greatestDepth := Nat.le_of_lt_succ hd
  rw [entries]
  dsimp only
  rw [isBlank_object, if_neg (by simp), parse_compact hm hle]

lemma entries_blank (c : Call) {blank : String} (h : Text.isBlank blank = true) :
    { c with payload := .string blank }.entries = .ok [] := if_pos h

end Call

/-! ### Outcomes -/

lemma Outcome.data_depth_le {o : Outcome} (h : o.json.depth < 128) :
    depthOfMembers o.data ≤ depthInRecord - 1 := by
  have hle : (Json.object o.data).depth ≤ depthOfMembers o.fields :=
    depth_le_of_mem_members (m := ("data", .object o.data)) (by simp [fields])
  rw [json, depth] at h
  rw [depth] at hle
  rw [depthInRecord, greatestDepth]
  omega

/-- An outcome is read as it is written. -/
theorem Outcome.decode_text {o : Outcome} (ho : o.IsExact) (hd : o.json.depth < 128) :
    decode o.text = .ok o := by
  have hdata := readsBack_values ho.data (data_depth_le hd)
  have hmetadata : Fills shape ⟨o.success, o.data, o.error, []⟩
      (dictField "metadata" o.metadata) o :=
    .table rfl rfl rfl ho.metadata
  have hfills : Fills shape shape.absent o.fields o :=
    .member rfl (readsBack_readBoolean o.success)
      (.member rfl hdata (.member rfl (readsBack_readText o.error) hmetadata))
  have hnames : (o.fields.map Prod.fst).Nodup :=
    ((((names_dictField "metadata" o.metadata).cons_cons "error").cons_cons "data").cons_cons
      "success").nodup (by decide)
  exact hfills.decodeWith_compact hnames (by simp [shape, fields])

theorem HealthStatus.decode_text {h : HealthStatus}
    (hn : (h.checkedAtMillis : Int) ≤ greatestInteger) : decode h.text = .ok h := by
  have hfills : Fills shape shape.absent [("healthy", .bool h.healthy),
      ("message", .string h.message), ("checked_at_ms", .ofNat h.checkedAtMillis)] h :=
    .member rfl (readsBack_readBoolean h.healthy) (.member rfl (readsBack_readText h.message)
      (.member rfl (readsBack_readNatural hn) (.nil _)))
  exact hfills.decodeWith_compact (by simp) (by simp [shape])

/-! ### The command and the server -/

lemma CallCommand.sent_call {p : Parsed} {operation : Server.Operation} {method payload : String}
    {timeoutMillis : Option Nat} {v : Json}
    (hp : p.request = .call operation method payload timeoutMillis)
    (hv : Json.parse payload = .ok v) :
    sent p = .ok ⟨p.url ++
      (if operation = .compensate then "/rpc/compensate" else "/rpc/execute"),
      some { Call.ofMethod method with payload := v, timeoutMillis }.text⟩ := by
  have hcall : callOf method payload timeoutMillis =
      .ok { Call.ofMethod method with payload := v, timeoutMillis } := by
    rw [callOf, hv]
    rfl
  rw [sent, hp]
  change (callOf method payload timeoutMillis >>= _) = _
  rw [hcall]
  rfl

/-- The text of a call is posted within the limits of a server. -/
lemma Server.readCall_text {s : Server} {i : Inbound} {c : Call} (hc : c.IsExact)
    (hd : c.json.depth < 128) (hm : i.method = "POST")
    (hj : (header? i "content-type").any MediaType.isJson = true)
    (hb : i.body = Percent.utf8 c.text.toList)
    (hlength : i.body.length ≤ min s.maxBodyBytes greatestBody) : s.readCall i = .ok c := by
  have hdecode : Call.decode (String.ofList c.text.toList) = .ok c := by
    rw [String.ofList_toList, Call.decode_text hc hd]
  exact readCall_of_accepts ⟨⟨hm, hj, holds_of_decode hb hdecode⟩, hlength⟩

/-- What is written is read: calls, outcomes and health; the call that the command makes; and the
payload as a text of its own. -/
theorem wire_round_trip :
    (∀ c : Call, c.IsExact → c.json.depth < 128 → Call.decode c.text = .ok c) ∧
      (∀ o : Outcome, o.IsExact → o.json.depth < 128 → Outcome.decode o.text = .ok o) ∧
      (∀ h : HealthStatus, (h.checkedAtMillis : Int) ≤ greatestInteger →
        HealthStatus.decode h.text = .ok h) ∧
      (∀ (p : CallCommand.Parsed) (operation : Server.Operation) (method payload : String)
        (timeoutMillis : Option Nat) (v : Json) (c : Call),
        p.request = .call operation method payload timeoutMillis → Json.parse payload = .ok v →
        c = { Call.ofMethod method with payload := v, timeoutMillis } →
        c.IsExact → c.json.depth < 128 →
        CallCommand.sent p = .ok ⟨p.url ++
          (if operation = .compensate then "/rpc/compensate" else "/rpc/execute"), some c.text⟩ ∧
        ∀ (s : Server) (i : Inbound), i.method = "POST" →
          (Server.header? i "content-type").any MediaType.isJson = true →
          i.body = Percent.utf8 c.text.toList →
          i.body.length ≤ min s.maxBodyBytes Server.greatestBody → s.readCall i = .ok c) ∧
      ∀ c : Call,
        (∀ members : Dict Json, (Json.object members).IsExact → (Json.object members).depth < 128 →
          { c with payload := .string (Json.object members).compact }.entries = .ok members ∧
            { c with payload := .object members }.entries = .ok members) ∧
        { c with payload := .null }.entries = .ok [] ∧
        (c.IsExact → Call.decode (Json.object (Dict.without c.fields ["payload"])).compact =
          .ok { c with payload := .null }) ∧
        ∀ blank, Text.isBlank blank = true →
          { c with payload := .string blank }.entries = .ok [] := by
  refine ⟨fun c => Call.decode_text, fun o => Outcome.decode_text,
    fun h => HealthStatus.decode_text, ?_, fun c => ⟨?_, rfl, Call.decode_without_payload,
    fun _ => Call.entries_blank c⟩⟩
  · rintro p operation method payload timeoutMillis v _ hp hv rfl hc hd
    exact ⟨CallCommand.sent_call hp hv, fun s i => Server.readCall_text hc hd⟩
  · intro members hm hd
    exact ⟨Call.entries_text c hm hd, rfl⟩

/-- An object inside of a list, escapes, and the integers at both ends. -/
def farPayload : Dict Json :=
  [("a\n", .array [.number (.integer (-0x8000000000000000)), .null,
    .object [("\u0001", .bool true)]]), ("é", .number (.integer 0xFFFFFFFFFFFFFFFF))]

lemma farPayload_isExact : (Json.object farPayload).IsExact := by
  refine .object (by unfold Dict.Ascending; decide) ?_
  simp only [farPayload, List.mem_cons, List.not_mem_nil, or_false, forall_eq_or_imp, forall_eq]
  refine ⟨.array ?_, .integer (by decide) (by decide)⟩
  simp only [List.mem_cons, List.not_mem_nil, or_false, forall_eq_or_imp, forall_eq]
  refine ⟨.integer (by decide) (by decide), .null, .object (List.pairwise_singleton _ _) ?_⟩
  simp only [List.mem_singleton, forall_eq]
  exact .bool true

def farCall : Call where
  method := "Create\"Order\\"
  payload := .object farPayload
  headers := [("x-trace", "\t\"ü")]
  correlationId := some ""
  workflowId := none
  stepId := none
  timeoutMillis := some 0xFFFFFFFFFFFFFFFF

lemma farCall_isExact : farCall.IsExact := by
  refine ⟨farPayload_isExact, List.pairwise_singleton _ _, fun n hn => ?_⟩
  obtain rfl := Option.mem_some_iff.mp hn
  decide

/-- The call that is made with nothing but a payload and a time limit. -/
def farMade : Call := { Call.ofMethod "CreateOrder" with
  payload := .object farPayload, timeoutMillis := some 5 }

lemma farMade_isExact : farMade.IsExact := by
  refine ⟨farPayload_isExact, List.Pairwise.nil, fun n hn => ?_⟩
  obtain rfl := Option.mem_some_iff.mp hn
  decide

def farParsed : CallCommand.Parsed :=
  ⟨"http://localhost:50051",
    .call .compensate "CreateOrder" (Json.object farPayload).compact (some 5)⟩

def farInbound : Inbound where
  method := "POST"
  path := "/rpc/compensate"
  headers := [("content-type", "application/json")]
  body := Percent.utf8 farMade.text.toList
  announcesLength := true

theorem far_call_round_trips :
    Call.decode farCall.text = .ok farCall ∧
      Outcome.decode (Outcome.ok farPayload).text = .ok (Outcome.ok farPayload) ∧
      HealthStatus.decode (HealthStatus.ofProbe false 0xFFFFFFFFFFFFFFFF).text =
        .ok (HealthStatus.ofProbe false 0xFFFFFFFFFFFFFFFF) ∧
      CallCommand.sent farParsed =
        .ok ⟨"http://localhost:50051/rpc/compensate", some farMade.text⟩ ∧
      (∃ g, Gateway.ofConfig {} id = .ok g ∧
        Server.readCall ⟨g, 2097152⟩ farInbound = .ok farMade) ∧
      { farCall with payload := .string (Json.object farPayload).compact }.entries =
        .ok farPayload ∧
      Call.decode (Json.object (Dict.without farCall.fields ["payload"])).compact =
        .ok { farCall with payload := .null } ∧
      { farCall with payload := .string " \n" }.entries = .ok [] := by
  obtain ⟨hcall, houtcome, hhealth, hmade, hpayload⟩ := wire_round_trip
  obtain ⟨hentries, -, hmissing, hblank⟩ := hpayload farCall
  have hparse : Json.parse (Json.object farPayload).compact = .ok (.object farPayload) :=
    parse_compact farPayload_isExact (by decide)
  obtain ⟨hsent, hread⟩ := hmade farParsed .compensate _ _ _ _ farMade rfl hparse rfl
    farMade_isExact (by decide)
  obtain ⟨g, hg⟩ := Gateway.exists_ofConfig Config.default_isValid (by decide) id
  have hlength : farInbound.body.length ≤ min 2097152 Server.greatestBody := by decide +kernel
  exact ⟨hcall farCall farCall_isExact (by decide),
    houtcome _ ⟨farPayload_isExact, List.Pairwise.nil⟩ (by decide),
    hhealth _ (by decide), hsent,
    ⟨g, hg, hread _ farInbound rfl (by decide +kernel) (by rw [farInbound]) hlength⟩,
    (hentries farPayload farPayload_isExact (by decide)).1, hmissing farCall_isExact,
    hblank _ (by decide +kernel)⟩

end RestGateway
