import Mathlib
import RestGateway.Proofs.Gateway.Server
import RestGateway.Proofs.Placeholder

/-! No entry of a payload is lost. The verb of a method decides where the entries go, and only those
whose segments stand in the path may be missing there. -/
namespace RestGateway.Gateway
open Template (AsksFor)

/-- The entries that are sent, in or besides the path. -/
def outgoing (g : Gateway) (template : String) (payload : Dict Json) : Dict Json :=
  if g.stripBoundParams then payload.filter (¬AsksFor template ·.1) else payload

/-- Where the entries of a call go, by the first letters of its method. -/
structure IsPlaced (method : String) (entries : Dict Json) (o : Outbound) : Prop where
  create : "Create".toList <+: method.toList →
    o.verb = .post ∧ o.body = some (.object entries) ∧ o.query = []
  update : "Update".toList <+: method.toList →
    o.verb = .put ∧ o.body = some (.object entries) ∧ o.query = []
  delete : "Delete".toList <+: method.toList → o.verb = .delete ∧ o.body = none ∧ o.query = []
  other : ¬"Create".toList <+: method.toList → ¬"Update".toList <+: method.toList →
    ¬"Delete".toList <+: method.toList →
      o.verb = .get ∧ o.body = none ∧ o.query = queryPairs entries

/-! ### Verbs -/

lemma infer_create {method : String} (h : "Create".toList <+: method.toList) :
    Verb.infer method = .post := if_pos (List.isPrefixOf_iff_prefix.mpr h)

lemma not_prefix_of_prefix {a b cs : List Char} (h : a <+: cs) (hl : a.length = b.length)
    (hne : a ≠ b) : ¬b <+: cs :=
  fun hb => hne ((List.prefix_of_prefix_length_le h hb hl.le).eq_of_length hl)

lemma infer_delete {method : String} (h : "Delete".toList <+: method.toList) :
    Verb.infer method = .delete := by
  -- a name cannot begin with two of the verbs, so the order in which they are tried is no matter
  have hc := not_prefix_of_prefix (b := "Create".toList) h (by simp) (by decide)
  rw [Verb.infer, if_neg (mt List.isPrefixOf_iff_prefix.mp hc),
    if_pos (List.isPrefixOf_iff_prefix.mpr h)]

lemma infer_update {method : String} (h : "Update".toList <+: method.toList) :
    Verb.infer method = .put := by
  have hc := not_prefix_of_prefix (b := "Create".toList) h (by simp) (by decide)
  have hd := not_prefix_of_prefix (b := "Delete".toList) h (by simp) (by decide)
  rw [Verb.infer, if_neg (mt List.isPrefixOf_iff_prefix.mp hc),
    if_neg (mt List.isPrefixOf_iff_prefix.mp hd), if_pos (List.isPrefixOf_iff_prefix.mpr h)]

lemma infer_other {method : String} (hc : ¬"Create".toList <+: method.toList)
    (hu : ¬"Update".toList <+: method.toList) (hd : ¬"Delete".toList <+: method.toList) :
    Verb.infer method = .get := by
  rw [Verb.infer, if_neg (mt List.isPrefixOf_iff_prefix.mp hc),
    if_neg (mt List.isPrefixOf_iff_prefix.mp hd), if_neg (mt List.isPrefixOf_iff_prefix.mp hu)]

lemma sent_of_place {o : Outbound} {entries : Dict Json} {verb : Verb} (hv : o.verb = verb)
    (hp : place o.verb entries = (o.body, o.query)) {body : Option Json}
    {query : List (String × String)} (h : place verb entries = (body, query)) :
    o.verb = verb ∧ o.body = body ∧ o.query = query := by
  rw [hv, h, Prod.mk.injEq] at hp
  exact ⟨hv, hp.1.symm, hp.2.symm⟩

lemma isPlaced_of_place {method : String} {entries : Dict Json} {o : Outbound}
    (hv : o.verb = Verb.infer method) (hp : place o.verb entries = (o.body, o.query)) :
    IsPlaced method entries o where
  create h := sent_of_place (hv.trans (infer_create h)) hp rfl
  update h := sent_of_place (hv.trans (infer_update h)) hp rfl
  delete h := sent_of_place (hv.trans (infer_delete h)) hp rfl
  other hc hu hd := sent_of_place (hv.trans (infer_other hc hu hd)) hp rfl

/-! ### Entries -/

lemma find?_outgoing (g : Gateway) (template : String) (payload : Dict Json) (key : String) :
    (g.outgoing template payload).find? key =
      if g.stripBoundParams ∧ AsksFor template key then none else payload.find? key := by
  rw [outgoing]
  cases g.stripBoundParams with
  | false => simp
  | true =>
    rw [if_pos rfl, Dict.find?_filter_key (fun key => ¬AsksFor template key)]
    by_cases ha : AsksFor template key <;> simp [ha]

/-- A call that becomes a request loses no entry of its payload. All entries are sent as the method
wants it, apart from those that are left out because they stand in the path, each of them as a
segment wherever the template asks for it. -/
theorem payload_is_conserved {g : Gateway} {c : Call} {o : Outbound} (h : g.prepare c = .ok o) :
    ∃ payload, c.entries = .ok payload ∧
      let template := (g.routes.resolve c.method).template
      IsPlaced c.method (g.outgoing template payload) o ∧
      (∀ key, (g.outgoing template payload).find? key =
        if g.stripBoundParams ∧ AsksFor template key then none else payload.find? key) ∧
      g.base.join (Template.bind template payload).path = .ok o.url ∧
      ∀ key v, AsksFor template key → payload.find? key = some v →
        ∃ segment, Form.segment? v.rendered = some segment ∧
          ∀ before after, template.toList = before ++ '{' :: (key.toList ++ '}' :: after) →
            (Template.bind template payload).path.toList =
              (Template.bind (String.ofList before) payload).path.toList ++ segment ++
                (Template.bind (String.ofList after) payload).path.toList := by
  obtain ⟨payload, url, headers, he, hr, hj, -, rfl⟩ := exists_of_prepare_eq_ok h
  refine ⟨payload, he, isPlaced_of_place rfl ?_, g.find?_outgoing _ payload, hj, ?_⟩
  · rw [outgoing, ← Template.bind_remaining hr]
    rfl
  · intro key v hk hv
    exact Template.segment_in_path hr hk hv

/-! ### A template that asks for a name twice -/

def shelfTemplate : String := "/shelves/\x7bshelf\x7d/books/\x7bid\x7d-\x7bshelf\x7d"

def shelfRouting : Config.Routing :=
  { routes := [("UpdateBook", shelfTemplate)]
    stripBoundParams := true }

def shelfEntries : Dict Json :=
  [("id", .number (.integer 7)), ("note", .null), ("shelf", .string "a/b")]

def shelfCall : Call := { Call.ofMethod "UpdateBook" with payload := .object shelfEntries }

/-- The shelf and the number are in the path only, and the note is in the body only. -/
theorem shelf_payload_is_conserved : ∃ g o, ofConfig { routing := shelfRouting } id = .ok g ∧
    g.prepare shelfCall = .ok o ∧ o.verb = .put ∧ o.body = some (.object [("note", .null)]) ∧
    o.query = [] ∧ g.base.join "/shelves/a%2Fb/books/7-a%2Fb" = .ok o.url := by
  have hvalid : ({ routing := shelfRouting } : Config).isValid = true :=
    Config.isValid_routing Config.default_isValid (by decide +kernel)
  obtain ⟨g, o, hg, ho⟩ := exists_request hvalid (by decide +kernel) id (c := shelfCall) rfl
    (by decide +kernel) rfl
  have htemplate : (g.routes.resolve shelfCall.method).template = shelfTemplate := by
    rw [routes_of_ofConfig hg]
    rfl
  have hstrip : g.stripBoundParams = true := by
    obtain ⟨base, probe, -, -, rfl⟩ := eq_of_ofConfig hg
    rfl
  obtain ⟨payload, he, hplaced, -, hjoin, -⟩ := payload_is_conserved ho
  obtain rfl : shelfEntries = payload := Except.ok.inj he
  rw [htemplate] at hplaced hjoin
  have hsent : g.outgoing shelfTemplate shelfEntries = [("note", .null)] := by
    rw [outgoing, if_pos hstrip]
    have hid : AsksFor shelfTemplate "id" := by decide +kernel
    have hshelf : AsksFor shelfTemplate "shelf" := by decide +kernel
    have hnote : ¬AsksFor shelfTemplate "note" := by decide +kernel
    simp [shelfEntries, hid, hshelf, hnote]
  rw [hsent] at hplaced
  obtain ⟨hverb, hbody, hquery⟩ := hplaced.update (by decide)
  have hpath : (Template.bind shelfTemplate shelfEntries).path =
      "/shelves/a%2Fb/books/7-a%2Fb" := by
    decide +kernel
  rw [hpath] at hjoin
  exact ⟨g, o, hg, ho, hverb, hbody, hquery, hjoin⟩

end RestGateway.Gateway
