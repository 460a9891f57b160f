import LogGate.Run
import LogGate.Proofs.Consistency
import LogGate.Proofs.Snapshot

/-!
Contexts whose names are texts. All changes of a context that name their entries by texts keep it so,
and the snapshot of such a context holds exactly its values.
-/

namespace LogGate

/-- Texts are told apart by their content. -/
theorem Value.text_beq_text (first second : String) :
    (Value.text first == Value.text second) = (first == second) := rfl

namespace Context

/-- A context whose names are texts, each of which stands once. -/
def IsNamed (context : Context) : Prop :=
  ∃ fields : Fields String Value, fields.Distinct ∧ context = ofNamed fields

/-- The value under a name, unless there is none or it is nothing. -/
def value? (context : Context) (name : Value) : Option Value :=
  (Fields.get? context name).filter fun value => !value.isAbsent

/-- A text is found as the name it is. -/
theorem get?_ofNamed (fields : Fields String Value) (name : String) :
    Fields.get? (ofNamed fields) (.text name) = fields.get? name := by
  induction fields with
  | nil => rfl
  | cons entry rest ih =>
      change (if Value.text entry.1 == Value.text name then some entry.2
        else Fields.get? (ofNamed rest) (.text name)) = _
      rw [ih, Value.text_beq_text]
      rfl

/-- Entries can be put before or after the names are made values. -/
theorem put_ofNamed (fields : Fields String Value) (name : String) (value : Value) :
    (ofNamed fields).put (.text name) value = ofNamed (fields.put name value) := by
  induction fields with
  | nil => rfl
  | cons entry rest ih =>
      change (if Value.text entry.1 == Value.text name
        then (Value.text entry.1, value) :: ofNamed rest
        else (Value.text entry.1, entry.2) :: (ofNamed rest).put (.text name) value) = _
      rw [ih, Value.text_beq_text, Fields.put]
      by_cases same : entry.1 == name
      · rw [if_pos same, if_pos same]
        rfl
      · rw [if_neg same, if_neg same]
        rfl

/-- Entries can be added before or after the names are made values. -/
theorem putAll_ofNamed (fields : Fields String Value) (added : List (String × Value)) :
    (ofNamed fields).putAll (ofNamed added) = ofNamed (fields.putAll added) := by
  induction added generalizing fields with
  | nil => rfl
  | cons entry rest ih =>
      rw [Fields.putAll_cons, ← ih, ← put_ofNamed]
      rfl

theorem isNamed_nil : IsNamed [] := ⟨[], List.nodup_nil, rfl⟩

namespace IsNamed

variable {context : Context}

/-- A named entry leaves a context named. -/
theorem put (named : context.IsNamed) (name : String) (value : Value) :
    IsNamed (Fields.put context (.text name) value) := by
  obtain ⟨fields, distinct, rfl⟩ := named
  exact ⟨fields.put name value, distinct.put name value, put_ofNamed fields name value⟩

theorem putAll (named : context.IsNamed) (added : List (String × Value)) :
    IsNamed (Fields.putAll context (ofNamed added)) := by
  obtain ⟨fields, distinct, rfl⟩ := named
  exact ⟨fields.putAll added, distinct.putAll added, putAll_ofNamed fields added⟩

/-- Whatever is left out of a named context, the rest is named. -/
theorem filter (named : context.IsNamed) (keep : Value × Value → Bool) :
    IsNamed (List.filter keep context) := by
  obtain ⟨fields, distinct, rfl⟩ := named
  refine ⟨fields.filter fun entry => keep (.text entry.1, entry.2), distinct.filter _, ?_⟩
  simp [ofNamed, List.filter_map, Function.comp_def]

/-- Extra fields leave a context named. -/
theorem merge (named : context.IsNamed) (extra : Fields String Value) :
    IsNamed (Context.merge context extra) := by
  rw [Context.merge, present_ofNamed]
  exact (named.filter _).putAll _

/-- The snapshot of a named context has the text of every value, and nothing else. -/
theorem get?_snapshot (named : context.IsNamed) (name : String) :
    (Snapshot.ofEntries context).get? name = (context.value? (.text name)).map Value.plain := by
  obtain ⟨fields, distinct, rfl⟩ := named
  rw [value?, get?_ofNamed]
  have texts : Snapshot.ofEntries (ofNamed fields) =
      ⟨(fields.filter fun entry => !entry.2.isAbsent).map
        fun entry => (entry.1, entry.2.plain)⟩ := by
    have collapsed : Fields.Distinct ((fields.filter fun entry => !entry.2.isAbsent).map
        fun entry => (entry.1, entry.2.plain)) := by
      have kept := distinct.filter fun entry => !entry.2.isAbsent
      rw [Fields.Distinct] at kept ⊢
      rwa [List.map_map]
    rw [Snapshot.ofEntries, present_ofNamed, ofNamed, List.map_map]
    exact congrArg Snapshot.mk (Fields.ofList_of_distinct collapsed)
  rw [texts, Snapshot.get?, Fields.get?_map, distinct.get?_filter fun value => !value.isAbsent]

end IsNamed

end Context

/-- A change that names an entry by a text, or names none. -/
def ContextChange.NamesText : ContextChange → Prop
  | put name _ => ∃ content, name = .text content
  | _ => True

/-- A change of the context with a text as its name leaves it named. -/
theorem ContextChange.isNamed_apply {registry : Registry} {context later : Context}
    {change : ContextChange} (text : change.NamesText) (named : context.IsNamed)
    (done : change.apply registry context = .ok later) : later.IsNamed := by
  cases change with
  | put name value =>
      obtain ⟨content, rfl⟩ := text
      cases read : value.read registry with
      | error failure => simp [apply, Literal.read, read, bind, Except.bind] at done
      | ok given =>
          simp only [apply, Literal.read, read, bind, Except.bind, Context.checkName,
            Value.isHashable, pure, Except.pure, if_true, Except.ok.injEq] at done
          rw [← done]
          exact named.put content given
  | putAll fields =>
      cases read : Literal.readNamed registry fields with
      | error failure => simp [apply, read, bind, Except.bind] at done
      | ok given =>
          simp only [apply, read, bind, Except.bind, pure, Except.pure, Except.ok.injEq] at done
          rw [← done]
          exact named.putAll given
  | remove name =>
      cases read : name.read registry with
      | error failure => simp [apply, read, bind, Except.bind] at done
      | ok given =>
          cases checked : Context.checkName given with
          | error failure => simp [apply, read, checked, bind, Except.bind] at done
          | ok _ =>
              simp only [apply, read, checked, bind, Except.bind, pure, Except.pure,
                Except.ok.injEq] at done
              rw [← done]
              exact named.filter _
  | clear =>
      simp only [apply, pure, Except.pure, Except.ok.injEq] at done
      rw [← done]
      exact Context.isNamed_nil

/-- The current context and those that open scopes restore have texts for names. -/
structure HasNames (ambient : Ambient) (session : Session) : Prop where
  context : ambient.context.IsNamed
  saved : ∀ scope ∈ session.scopes, scope.2.restored.IsNamed

/-- Entering a scope keeps names, and so does leaving one. -/
theorem ScopeStep.hasNames_run {ambient : Ambient} {session : Session}
    (named : HasNames ambient session) (step : ScopeStep) :
    HasNames (step.run ambient session).2.1 (step.run ambient session).2.2 := by
  have rest (entry : String × Scope) (member : entry ∈ session.scopes.remove step.name) :
      entry.2.restored.IsNamed := named.saved entry (List.mem_of_mem_filter member)
  have ends := step.ends_run ambient session
  generalize (step.run ambient session).2 = after at ends ⊢
  cases ends with
  | failed => exact named
  | entered fields requests =>
      refine ⟨named.context.putAll fields, ?_⟩
      intro entry member
      rcases Fields.mem_put member with old | ⟨new, -⟩
      · exact named.saved entry old
      · rw [new]
        exact named.context
  | left found => exact ⟨named.saved _ (Fields.mem_of_get? found), rest⟩
  | foreign => exact ⟨named.context, rest⟩

end LogGate
