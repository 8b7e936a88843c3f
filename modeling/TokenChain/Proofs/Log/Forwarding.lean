import Mathlib.Data.List.Induction
import TokenChain.Log.Forwarding
import TokenChain.Proofs.Log.Retention

/-! # Which events come to the log, and how they read

The text of an event is written value by value, with a message that may be replaced and fields that
are added to. It comes out as the message, if it is not empty, and the fields with blanks between
them (`Event.text_eq`).

Events are wanted if they are grave enough, come from the targets asked for and are not the chain's
own (`Forwarder.Wants`). The chain's own events come from its target or from below it
(`Forwarder.IsOwn`), but events are passed over by how their target begins, and the target of
another component may begin alike (`Forwarder.IsNamesake`). These events are lost, and no others: of
any stream of events, the log receives one entry for each event that is wanted and no namesake's, in
the order of the events (`Forwarder.receives_of_stream`). -/

namespace TokenChain

/-! ### The text of an event -/

namespace Event

/-- The last value recorded as the message, empty if there is none. -/
def lastMessage (values : List (String × Recorded)) : String :=
  ((values.filter fun v => v.1 == "message").getLast?.map fun v => v.2.text).getD ""

/-- The other values, each with its name, in the order in which they were recorded. -/
def named (values : List (String × Recorded)) : List String :=
  (values.filter fun v => v.1 != "message").map fun v => v.1 ++ "=" ++ v.2.text

/-- **How an event reads**: the message, left out if it is empty, and the other values, with single
blanks between them. -/
def wording (e : Event) : String :=
  " ".intercalate ((if lastMessage e.values = "" then [] else [lastMessage e.values]) ++
    named e.values)

theorem ne_empty_of_mem_named {values : List (String × Recorded)} {field : String}
    (h : field ∈ named values) : field ≠ "" := by
  obtain ⟨v, -, rfl⟩ := List.mem_map.mp h
  simp

theorem intercalate_eq_empty_iff {fields : List String} (filled : ∀ field ∈ fields, field ≠ "") :
    " ".intercalate fields = "" ↔ fields = [] := by
  match fields with
  | [] => simp [String.intercalate_nil]
  | [field] => simpa [String.intercalate_singleton] using filled field List.mem_cons_self
  | first :: second :: more => simp [String.intercalate_cons_cons]

theorem push_intercalate {fields : List String} (filled : ∀ field ∈ fields, field ≠ "")
    (message name text : String) : (⟨message, " ".intercalate fields⟩ : Draft).push name text =
      ⟨message, " ".intercalate (fields ++ [name ++ "=" ++ text])⟩ := by
  rw [Draft.push]
  by_cases none : fields = []
  · subst none
    simp [String.intercalate_nil, String.intercalate_singleton]
  · have some : ¬ (" ".intercalate fields).isEmpty = true := by
      rwa [String.isEmpty_iff, intercalate_eq_empty_iff filled]
    simp only [some, String.intercalate_append_of_ne_nil none (List.cons_ne_nil _ _),
      String.intercalate_singleton]
    rfl

theorem lastMessage_append (values : List (String × Recorded)) (v : String × Recorded) :
    lastMessage (values ++ [v]) = if v.1 = "message" then v.2.text else lastMessage values := by
  by_cases message : v.1 = "message" <;> simp [lastMessage, List.filter_append, message]

theorem named_append (values : List (String × Recorded)) (v : String × Recorded) :
    named (values ++ [v]) = if v.1 = "message" then named values else named values ++
      [v.1 ++ "=" ++ v.2.text] := by
  by_cases message : v.1 = "message" <;> simp [named, List.filter_append, message]

/-- **Values recorded one after another** leave the last message and all the fields. -/
theorem foldl_record (values : List (String × Recorded)) :
    values.foldl Draft.record ⟨"", ""⟩ = ⟨lastMessage values, " ".intercalate (named values)⟩ := by
  induction values using List.reverseRecOn with
  | nil => rfl
  | append_singleton values v ih =>
    rw [List.foldl_append, ih, List.foldl_cons, List.foldl_nil, Draft.record,
      lastMessage_append, named_append]
    by_cases message : v.1 = "message"
    · simp only [message, beq_self_eq_true, if_true]
    · rw [if_neg (by simpa using message), if_neg message, if_neg message]
      exact push_intercalate (fun _ => ne_empty_of_mem_named) _ _ _

/-- **The text of an event.** -/
theorem text_eq (e : Event) : e.text = e.wording := by
  have filled : ∀ field ∈ named e.values, field ≠ "" := fun _ => ne_empty_of_mem_named
  have fields := intercalate_eq_empty_iff filled
  rw [text, foldl_record, Draft.finish, wording]
  by_cases none : named e.values = []
  · by_cases silent : lastMessage e.values = "" <;>
      simp [none, silent, String.intercalate_nil, String.intercalate_singleton]
  · by_cases silent : lastMessage e.values = ""
    · simp [silent, none, fields]
    · rw [if_neg silent, String.intercalate_append_of_ne_nil (List.cons_ne_nil _ _) none,
        String.intercalate_singleton]
      simp [silent, none, fields]

/-- The entry for an event. -/
def entry (e : Event) (now : Instant) : Entry :=
  { level := e.severity.level, context := e.target, message := e.wording, time := now }

end Event

/-! ### The events that are passed on -/

namespace Forwarder

/-- **The chain's own targets**: its name, and what is below it. -/
def IsOwn (target : String) : Prop :=
  target = ownTarget ∨ (ownTarget ++ "::").toList <+: target.toList

/-- **Targets that only begin like the chain's own.** -/
def IsNamesake (target : String) : Prop := ownTarget.toList <+: target.toList ∧ ¬ IsOwn target

/-- **The events that are wanted**: they are grave enough, come from the targets asked for, and are
not the chain's own. -/
structure Wants (f : Forwarder) (e : Event) : Prop where
  grave : f.threshold.rank ≤ e.severity.rank
  asked : ∀ start ∈ f.targets, start.toList <+: e.target.toList
  foreign : ¬ IsOwn e.target

instance (target : String) : Decidable (IsOwn target) := inferInstanceAs (Decidable (_ ∨ _))

instance (target : String) : Decidable (IsNamesake target) := inferInstanceAs (Decidable (_ ∧ _))

theorem IsOwn.begins {target : String} (own : IsOwn target) :
    ownTarget.toList <+: target.toList := by
  obtain rfl | below := own
  · exact List.prefix_rfl
  · rw [String.toList_append] at below
    exact (List.prefix_append _ _).trans below

/-- An event is passed on if it is wanted, unless it is a namesake's. -/
theorem accepts_iff (f : Forwarder) (e : Event) :
    f.accepts e = true ↔ f.Wants e ∧ ¬ IsNamesake e.target := by
  have asked : (f.targets.all fun start => start.toList.isPrefixOf e.target.toList) = true ↔
      ∀ start ∈ f.targets, start.toList <+: e.target.toList := by
    cases f.targets with
    | none => simp
    | some start => simp
  rw [accepts, Bool.and_eq_true, Bool.and_eq_true, asked, Bool.not_eq_true', ← Bool.not_eq_true,
    List.isPrefixOf_iff_prefix, decide_eq_true_eq]
  constructor
  · rintro ⟨⟨strange, grave⟩, asked⟩
    exact ⟨⟨grave, asked, fun own => strange own.begins⟩, fun namesake => strange namesake.1⟩
  · rintro ⟨wants, distinct⟩
    exact ⟨⟨fun begins => distinct ⟨begins, wants.foreign⟩, wants.grave⟩, wants.asked⟩

instance (f : Forwarder) (e : Event) : Decidable (f.Wants e ∧ ¬ IsNamesake e.target) :=
  decidable_of_iff _ (accepts_iff f e)

theorem forward_eq (f : Forwarder) (log : Log) (x : Instant × Event) :
    f.forward x.1 log x.2 =
      if f.Wants x.2 ∧ ¬ IsNamesake x.2.target then log.append (x.2.entry x.1) else log := by
  rw [forward, Event.text_eq, ← if_congr (accepts_iff f x.2) rfl rfl]
  rfl

/-- **What the log receives** of a stream of events: one entry for each event that is wanted and no
namesake's, in the order of the events. -/
theorem receives_of_stream (f : Forwarder) (log : Log) (stream : List (Instant × Event)) :
    f.forwardAll log stream =
      ((stream.filter fun x => f.Wants x.2 ∧ ¬ IsNamesake x.2.target).map fun x =>
        x.2.entry x.1).foldl Log.append log := by
  rw [List.foldl_map, List.foldl_filter, forwardAll]
  congr 1
  funext log x
  simpa using forward_eq f log x

/-- An event of another component with a target that begins like the chain's own. -/
def namesakeEvent : Event :=
  ⟨.error, "azure_credential_chain_tools", [("message", .plain "broken"), ("code", .plain "7")]⟩

/-- **A namesake's event is lost**: it is wanted, and it stands between two events that come to the
log, but it does not. -/
theorem receives_of_stream_namesake : standard.Wants namesakeEvent ∧
    (standard.forwardAll (.ofCapacity 4)
      [(⟨0⟩, ⟨.warn, "hyper", [("message", .plain "retry"), ("n", .plain "1")]⟩),
        (⟨1⟩, namesakeEvent), (⟨2⟩, ⟨.info, "azure_core", [("message", .plain "")]⟩)]).entries =
      [⟨⟨.warning, "hyper", "retry n=1"⟩, ⟨0⟩⟩, ⟨⟨.info, "azure_core", ""⟩, ⟨2⟩⟩] := by
  refine ⟨⟨by decide, nofun, by decide⟩, ?_⟩
  rw [receives_of_stream]
  decide +kernel

end Forwarder

end TokenChain
