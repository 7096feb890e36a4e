import Mathlib
import RestGateway.Proofs.ByteOrder
import RestGateway.Proofs.Json.Ordered
import RestGateway.Proofs.Query
import RestGateway.Proofs.Gateway.Message
import RestGateway.Proofs.Gateway.Outcome
import RestGateway.Proofs.Gateway.Payload
import RestGateway.Proofs.Url.Walk

/-! The query that the service receives is read as the entries of the payload: every text in its
place, in the order of the names, and no query at all when there is nothing to show. -/
namespace RestGateway

/-- The texts that a value shows in a query: none for null, one for each item of a list that is not
null, and otherwise one. -/
def Json.shownTexts : Json → List String
  | .null => []
  | .array items => (items.filter (! isNull ·)).map rendered
  | v => [v.rendered]

/-- The names and the texts that a query shows of a payload. -/
def shownPairs (payload : Dict Json) : List (String × String) :=
  payload.flatMap fun (name, v) => v.shownTexts.map (name, ·)

lemma queryPairs_eq_shownPairs (payload : Dict Json) : queryPairs payload = shownPairs payload := by
  refine List.flatMap_congr fun entry _ => ?_
  obtain ⟨name, v⟩ := entry
  cases v with
  | array items => simp [entryPairs, Json.shownTexts]
  | _ => rfl

/-! ### Queries of URLs -/

namespace Url

lemma withPairs_query {u : Url} (h : u.query = none) (pairs : List (String × String)) :
    (u.withPairs pairs).query = if pairs = [] then none else some (Form.query pairs) := by
  unfold withPairs
  cases pairs with
  | nil => exact h
  | cons pair pairs => simp [h]

/-- A path without the mark of a query leads to a URL that has none. -/
lemma IsBase.query_of_join {base url : Url} (hb : base.IsBase) {path : String}
    {behind : List Char} (hp : path.toList = '/' :: behind) (hm : '?' ∉ behind ∧ '#' ∉ behind)
    (hj : base.join path = .ok url) : url.query = none := by
  have hnone : ∀ s ∈ ([] : List (List Char)), IsSettled s := by simp
  rw [hb.join_place hnone hp, Except.ok.injEq] at hj
  rw [← hj]
  exact ((readTail_counted_eq_none_iff true behind).mpr hm).1

end Url

lemma Outbound.query_asked (o : Outbound) : o.asked.query = o.url.query := by
  unfold asked
  split_ifs <;> rfl

namespace Gateway

/-! ### Requests with a query -/

section
variable {g : Gateway} {c : Call} {payload : Dict Json} {o : Outbound}

lemma IsSound.query_of_prepare (hg : g.IsSound) (ho : g.prepare c = .ok o)
    (hplain : '?' ∉ (g.routes.resolve c.method).template.toList ∧
      '#' ∉ (g.routes.resolve c.method).template.toList) : o.url.query = none := by
  obtain ⟨payload, url, headers, -, -, hj, -, rfl⟩ := exists_of_prepare_eq_ok ho
  obtain ⟨rest, hr⟩ := hg.slash c.method
  have hpath := Template.bind_path_of_slash hr payload
  have habsent : ∀ mark, Form.isSegmentChar mark = false →
      mark ∉ (g.routes.resolve c.method).template.toList →
        mark ∉ (g.bound c payload).path.toList := by
    intro mark hmark htemplate hm
    rcases Template.mem_bind_path hm with ht | hs
    · exact htemplate ht
    · simp [hmark] at hs
  have hquery := habsent '?' (by decide) hplain.1
  have hfragment := habsent '#' (by decide) hplain.2
  refine hg.base.query_of_join hpath ⟨?_, ?_⟩ hj
  · exact fun hm => hquery (hpath ▸ List.mem_cons_of_mem '/' hm)
  · exact fun hm => hfragment (hpath ▸ List.mem_cons_of_mem '/' hm)

lemma query_of_get (ho : g.prepare c = .ok o) (hget : o.verb = .get) :
    ∃ payload, c.entries = .ok payload ∧
      o.query = shownPairs (g.outgoing (g.routes.resolve c.method).template payload) := by
  obtain ⟨payload, url, headers, he, hr, -, -, rfl⟩ := exists_of_prepare_eq_ok ho
  refine ⟨payload, he, ?_⟩
  have hverb : (g.routes.resolve c.method).verb = .get := hget
  rw [outgoing, ← Template.bind_remaining hr, ← queryPairs_eq_shownPairs]
  simp only [request, hverb, place, Verb.placement, bound]

lemma ascending_outgoing (h : payload.Ascending) (g : Gateway) (template : String) :
    (g.outgoing template payload).Ascending := by
  unfold outgoing
  split_ifs
  · exact Dict.ascending_filter h _
  · exact h

end

/-- With a valid configuration, and a template without the marks of a query and of a fragment, the
service reads in the query what the entries show that are sent, in the order of the bytes of their
names. There is a query exactly when there is something to show. -/
theorem query_shows_payload {cfg : Config} (hc : cfg.isValid = true) {plan : Call → Call}
    {g : Gateway} (hg : ofConfig cfg plan = .ok g) {c : Call} (hordered : c.IsOrdered)
    {d : Downstream} {outcome : Outcome} {sent : List Message}
    (hrun : g.run? d c = some (outcome, sent)) {m : Message} (hm : m ∈ sent)
    (hget : m.verb = .get)
    (hplain : '?' ∉ (g.routes.resolve c.method).template.toList ∧
      '#' ∉ (g.routes.resolve c.method).template.toList) :
    ∃ payload, c.entries = .ok payload ∧
      let entries := g.outgoing (g.routes.resolve c.method).template payload
      (entries.map fun entry => Percent.utf8 entry.1.toList).Pairwise (· < ·) ∧
        Form.decodeQuery (m.url.query.getD []) = (shownPairs entries).map Form.pairBytes ∧
        (m.url.query = none ↔ shownPairs entries = []) := by
  obtain ⟨o, ho, -, hcarries⟩ := exists_of_mem_sent hrun hm
  obtain ⟨payload, he, hquery⟩ := query_of_get ho (hcarries.verb.symm.trans hget)
  refine ⟨payload, he, ?_⟩
  intro entries
  have hascending : entries.Ascending :=
    ascending_outgoing (hordered.ascending_entries he) g _
  have hnone : o.asked.query = none := by
    rw [o.query_asked]
    exact (sound_of_ofConfig hc hg).query_of_prepare ho hplain
  have hurl : m.url.query =
      if shownPairs entries = [] then none else some (Form.query (shownPairs entries)) := by
    rw [← hquery, hcarries.url]
    exact Url.withPairs_query hnone o.query
  refine ⟨Dict.ascending_iff_bytes.mp hascending, ?_⟩
  rw [hurl]
  by_cases hempty : shownPairs entries = []
  · rw [if_pos hempty, hempty]
    exact ⟨by decide, by simp⟩
  · rw [if_neg hempty]
    exact ⟨Form.decodeQuery_query _, by simp [hempty]⟩

/-! ### Names and texts that look like a query -/

def searchEntries : Dict Json :=
  [("", .string ""), ("a&b", .array [.string "x=y", .null, .string "é +%"]), ("n", .null),
    ("none", .array [.null]), ("page", .number (.integer 2))]

def searchCall : Call := { Call.ofMethod "ListOrders" with payload := .object searchEntries }

/-- Nothing that looks like a mark of the query is taken for one, and null is not shown. -/
theorem search_is_shown : ({} : Config).isValid = true ∧ searchCall.IsOrdered ∧
    ∃ g outcome m, ofConfig {} id = .ok g ∧
      g.run? (.answering fun _ => .unreachable) searchCall = some (outcome, [m]) ∧
      m.verb = .get ∧
      Form.decodeQuery (m.url.query.getD []) =
        [("", ""), ("a&b", "x=y"), ("a&b", "é +%"), ("page", "2")].map Form.pairBytes := by
  obtain ⟨g, hg⟩ := exists_ofConfig Config.default_isValid (by decide +kernel) id
  have hordered : searchCall.IsOrdered := by
    refine ⟨Dict.ascending_nil, fun members hmembers => ?_⟩
    rw [← Json.object.inj hmembers]
    exact Dict.ascending_iff_bytes.mpr (by decide +kernel)
  have ho := prepare_usual hg (c := searchCall) rfl searchEntries rfl rfl rfl
  obtain ⟨m, hm⟩ := exists_message?_of_fits ho (by decide +kernel)
  have hrun := run?_of_message? ho hm (by decide +kernel)
    (d := .answering fun _ => .unreachable) rfl
  have hget : m.verb = .get := (Outbound.carries_of_message? (isClean_of_prepare ho) hm).verb
  have htemplate : (g.routes.resolve searchCall.method).template = "/api/listorders" := by
    rw [routes_of_ofConfig hg]
    decide +kernel
  have hstrip : g.stripBoundParams = false := by
    obtain ⟨base, probe, -, -, rfl⟩ := eq_of_ofConfig hg
    rfl
  obtain ⟨payload, he, -, hread, -⟩ := query_shows_payload Config.default_isValid hg hordered hrun
    List.mem_cons_self hget (by rw [htemplate]; decide)
  obtain rfl : searchEntries = payload := Except.ok.inj he
  refine ⟨Config.default_isValid, hordered, g, _, m, hg, hrun, hget, ?_⟩
  rw [hread, outgoing, hstrip, if_neg Bool.false_ne_true]
  decide +kernel

end Gateway

end RestGateway
