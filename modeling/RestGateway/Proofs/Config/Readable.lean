import Mathlib
import RestGateway.Config.Decoder
import RestGateway.Proofs.Config.Settings

/-! A table is read whatever settings it has, with any other names beside them, as long as each
setting that is there has a value of its kind. -/
namespace RestGateway.Config
open Document (Dialect)

/-- A format by its name, which may have what counts as no content. -/
def LogFormat.IsNamed (dialect : Dialect) (d : Document) (format : LogFormat) : Prop :=
  d = .string format.name ∨
    ∃ content, d = .table [(format.name, content)] ∧ dialect.contentProblem content = none

def Listener.IsReadable : Document → Prop :=
  Document.EachEntry fun name part =>
    (name = "bind_address" → ∃ s, part.IsText s) ∧
    (name = "max_concurrency" → ∃ n, part.IsCount n) ∧
    (name = "max_body_bytes" → ∃ n, part.IsCount n)

def Service.IsReadable : Document → Prop :=
  Document.EachEntry fun name part =>
    (name = "base_url" → ∃ s, part.IsText s) ∧
    (name = "request_timeout_secs" → ∃ n, part.IsCount n) ∧
    (name = "max_request_timeout_secs" → ∃ n, part.IsCount n) ∧
    (name = "connect_timeout_secs" → ∃ n, part.IsCount n) ∧
    (name = "user_agent" → ∃ s, part.IsText s)

def HealthCheck.IsReadable : Document → Prop :=
  Document.EachEntry fun name part =>
    (name = "path" → ∃ s, part.IsText s) ∧ (name = "timeout_secs" → ∃ n, part.IsCount n)

def Routing.IsReadable : Document → Prop :=
  Document.EachEntry fun name part =>
    (name = "routes" → part.EachEntry fun _ template => ∃ s, template.IsText s) ∧
    (name = "fallback_prefix" → ∃ s, part.IsText s) ∧
    (name = "strip_bound_params" → ∃ b, part.IsSwitch b)

def Observability.IsReadable (dialect : Dialect) : Document → Prop :=
  Document.EachEntry fun name part =>
    (name = "log_level" → ∃ s, part.IsText s) ∧
    (name = "log_format" → ∃ format : LogFormat, format.IsNamed dialect part) ∧
    (name = "metrics_enabled" → ∃ b, part.IsSwitch b) ∧
    (name = "metrics_address" → ∃ s, part.IsText s)

/-- Every section that there is has what can be read. -/
def IsReadable (dialect : Dialect) : Document → Prop :=
  Document.EachEntry fun name part =>
    (name = "listener" → Listener.IsReadable part) ∧
    (name = "downstream" → Service.IsReadable part) ∧
    (name = "health_check" → HealthCheck.IsReadable part) ∧
    (name = "routing" → Routing.IsReadable part) ∧
    (name = "observability" → Observability.IsReadable dialect part)

section
variable {dialect : Dialect} {called : String} {d : Document}

lemma LogFormat.readChoice_name (dialect : Dialect) (format : LogFormat) :
    Document.readChoice dialect (all.map fun format => (format.name, format))
      (.string format.name) = .ok format := by
  cases format <;> rfl

lemma LogFormat.exists_readChoice (h : ∃ format : LogFormat, format.IsNamed dialect d) :
    ∃ format, Document.readChoice dialect (all.map fun format => (format.name, format)) d =
      .ok format := by
  obtain ⟨format, rfl | ⟨content, rfl, hcontent⟩⟩ := h
  · exact ⟨format, readChoice_name dialect format⟩
  · refine ⟨format, ?_⟩
    have hname : Document.readChoiceName (all.map fun format => (format.name, format))
        format.name = .ok format := readChoice_name dialect format
    rw [Document.readChoice, hname, Document.ok_bind, hcontent]
    rfl

lemma Listener.exists_readSection (h : Listener.IsReadable d) :
    ∃ l, Document.readSection called settings {} dialect d = .ok l :=
  Document.exists_readSection h (fun _ _ ha => by simpa [settings] using ha) _ _

lemma Service.exists_readSection (h : Service.IsReadable d) :
    ∃ s, Document.readSection called settings {} dialect d = .ok s :=
  Document.exists_readSection h (fun _ _ ha => by simpa [settings] using ha) _ _

lemma HealthCheck.exists_readSection (h : HealthCheck.IsReadable d) :
    ∃ c, Document.readSection called settings {} dialect d = .ok c :=
  Document.exists_readSection h (fun _ _ ha => by simpa [settings] using ha) _ _

lemma Routing.exists_readSection (h : Routing.IsReadable d) :
    ∃ r, Document.readSection called settings {} dialect d = .ok r := by
  refine Document.exists_readSection h (fun name part ⟨hroutes, ha⟩ => ?_) _ _
  have htexts := fun hname => Document.exists_readTexts (hroutes hname)
  simpa [settings] using And.intro htexts ha

lemma Observability.exists_readSection (h : Observability.IsReadable dialect d) :
    ∃ o, Document.readSection called settings {} dialect d = .ok o := by
  refine Document.exists_readSection h (fun name part ⟨hlevel, hformat, ha⟩ => ?_) _ _
  have hchoice := fun hname => LogFormat.exists_readChoice (hformat hname)
  simpa [settings] using And.intro hlevel (And.intro hchoice ha)

/-- Any of the settings may be missing, and there may be others. -/
theorem exists_ofDocument (h : IsReadable dialect d) : ∃ c, ofDocument dialect d = .ok c := by
  refine Document.exists_readSection h (fun name part ha s hs hname => ?_) _ _
  obtain ⟨hlistener, hservice, hhealth, hrouting, hobservability⟩ := ha
  simp only [settings, List.mem_cons, List.not_mem_nil, or_false] at hs
  rcases hs with rfl | rfl | rfl | rfl | rfl
  · exact Document.exists_bind_ok_iff.mpr (Listener.exists_readSection (hlistener hname))
  · exact Document.exists_bind_ok_iff.mpr (Service.exists_readSection (hservice hname))
  · exact Document.exists_bind_ok_iff.mpr (HealthCheck.exists_readSection (hhealth hname))
  · exact Document.exists_bind_ok_iff.mpr (Routing.exists_readSection (hrouting hname))
  · exact Document.exists_bind_ok_iff.mpr (Observability.exists_readSection (hobservability hname))

end

end RestGateway.Config
