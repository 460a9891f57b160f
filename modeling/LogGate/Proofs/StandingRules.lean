import LogGate.Proofs.Consistency

/-!
Standing rules. A call gets the same rule for a configuration whether it is kept already or has to be built,
as long as it is the rule that the configuration stands for. Sessions that keep different rules can therefore
be alike for every call.
-/

namespace LogGate

namespace Session

/-- The rule that a call gets for a configuration, be it kept or built by the call. -/
def standing (session : Session) (number : Nat) : Except Failure (Option Rule) :=
  if (session.config number).isActive then
    match session.rules.get? number with
    | some (_, rule) => .ok (some rule)
    | none => ((session.config number).buildRule session.registry).map some
  else .ok none

/-- Nothing is kept for a configuration but what it stands for, if it is as it was made. -/
theorem Holds.standing_eq {session : Session} {number : Nat} {config : Config}
    (held : session.Holds number config) : session.standing number =
      if config.isActive then (config.buildRule session.registry).map some else .ok none := by
  rw [standing, held.config_eq]
  split
  · cases found : session.rules.get? number with
    | none => rfl
    | some kept =>
        rw [held.buildRule_eq found]
        rfl
  · rfl

/-- A new configuration has the next number, and the rules of all others stand. -/
theorem standing_configured {session : Session} (reached : session.Reachable) (config : Config)
    (defaultConfig : Option Nat) (number : Nat) :
    Session.standing { session with
      configs := session.configs ++ [config]
      defaultConfig } number =
      if number = session.configs.length then
        if config.isActive then (config.buildRule session.registry).map some else .ok none
      else session.standing number := by
  rw [standing, standing, Session.config, Session.config]
  by_cases new : number = session.configs.length
  · have missing : session.rules.get? number = none := by
      rw [Option.eq_none_iff_forall_ne_some]
      intro kept found
      have old := reached.consistent.configured number kept found
      omega
    rw [if_pos new, List.getElem?_append_right (Nat.le_of_eq new.symm), new, Nat.sub_self]
    rw [new] at missing
    dsimp only
    rw [missing]
    rfl
  · rw [if_neg new]
    have same : (session.configs ++ [config])[number]? = session.configs[number]? := by
      rw [List.getElem?_append]
      split
      · rfl
      · rw [List.getElem?_eq_none (by simp; omega), List.getElem?_eq_none (by omega)]
    rw [same]

/-- A session with other loggers and other rules. -/
def keeping (session : Session) (loggers : LoggerTree) (rules : Fields Nat (Nat × Rule))
    (built : Nat) : Session :=
  { session with
    loggers
    rules
    built }

/-- Sessions that differ in their loggers and in the rules that they keep, and in which every call gets the
same rules. -/
structure Alike (first second : Session) : Prop where
  same : ∃ loggers rules built, second = first.keeping loggers rules built
  standing : ∀ number, second.standing number = first.standing number
  reachable : first.Reachable
  reachable_other : second.Reachable

/-- Sessions that are alike have the same levels. -/
theorem Alike.registry_eq {first second : Session} (alike : first.Alike second) :
    second.registry = first.registry := by
  obtain ⟨loggers, rules, built, rfl⟩ := alike.same
  rfl

end Session

namespace Act

variable {first second : Session}

/-- What is found for a configuration is what stands for it; and all rules stand as before. -/
theorem standing_of_ruleOf {session later : Session} {number : Nat}
    {result : Except Failure (Option (Nat × Rule))}
    (found : (ruleOf number).exec session = (result, later)) :
    result.map (Option.map (·.2)) = session.standing number ∧
      (∃ rules built, later = { session with
        rules
        built }) ∧
      ∀ other, later.standing other = session.standing other := by
  cases exec_ruleOf_iff.mp found with
  | inactive off =>
      refine ⟨?_, ⟨_, _, rfl⟩, fun _ => rfl⟩
      rw [Session.standing, off]
      rfl
  | kept on kept =>
      refine ⟨?_, ⟨_, _, rfl⟩, fun _ => rfl⟩
      rw [Session.standing, if_pos on, kept]
      rfl
  | @built rule on missing built =>
      have stands : session.standing number = .ok (some rule) := by
        rw [Session.standing, if_pos on, missing]
        exact congrArg (Except.map some) built
      refine ⟨stands.symm, ⟨_, _, rfl⟩, fun other => ?_⟩
      by_cases own : number = other
      · rw [← own, stands, Session.standing]
        refine (if_pos on).trans ?_
        rw [Fields.get?_put_self]
      · rw [Session.standing, Fields.get?_put_of_ne _ _ (beq_eq_false_iff_ne.mpr own)]
        rfl
  | unbuilt on missing unbuilt =>
      refine ⟨?_, ⟨_, _, rfl⟩, fun _ => rfl⟩
      rw [Session.standing, if_pos on, missing, unbuilt]
      rfl

/-- Alike sessions find the same rule, if not under the same number, and stay alike. -/
theorem ruleOf_of_alike (alike : first.Alike second) (number : Nat) :
    ∃ found later other_found other, (ruleOf number).exec first = (found, later) ∧
      (ruleOf number).exec second = (other_found, other) ∧
      other_found.map (Option.map (·.2)) = found.map (Option.map (·.2)) ∧
      later.Alike other ∧ later.loggers = first.loggers ∧ other.loggers = second.loggers := by
  have looks : (ruleOf number).Regular { builds := true } := regular_ruleOf rfl number
  have evolves := looks.evolves first
  have other_evolves := looks.evolves second
  cases found : (ruleOf number).exec first with
  | mk result later =>
      cases other_found : (ruleOf number).exec second with
      | mk other_result other =>
          obtain ⟨stands, ⟨rules, built, rfl⟩, kept⟩ := standing_of_ruleOf found
          obtain ⟨other_stands, ⟨other_rules, other_built, rfl⟩, other_kept⟩ :=
            standing_of_ruleOf other_found
          rw [found] at evolves
          rw [other_found] at other_evolves
          refine ⟨_, _, _, _, rfl, rfl, ?_, ⟨?_, ?_, ?_, ?_⟩, rfl, rfl⟩
          · rw [stands, other_stands, alike.standing]
          · obtain ⟨loggers, _, _, rfl⟩ := alike.same
            exact ⟨loggers, other_rules, other_built, rfl⟩
          · intro other
            rw [kept, other_kept, alike.standing]
          · exact alike.reachable.trans evolves
          · exact alike.reachable_other.trans other_evolves

/-- Alike sessions choose the same configuration for a call. -/
theorem configOrDefault_of_alike (alike : first.Alike second) (config : Option Nat) :
    ∃ chosen later other, (configOrDefault config).exec first = (chosen, later) ∧
      (configOrDefault config).exec second = (chosen, other) ∧
      later.Alike other ∧ later.loggers = first.loggers ∧ other.loggers = second.loggers := by
  cases config with
  | some number => exact ⟨.ok number, first, second, rfl, rfl, alike, rfl, rfl⟩
  | none =>
      obtain ⟨loggers, rules, built, rfl⟩ := alike.same
      have looked := defaultFound first
      generalize defaultConfig.exec first = done at looked
      obtain ⟨result, later⟩ := done
      cases looked with
      | kept known =>
          exact ⟨_, _, _, exec_defaultConfig (.kept known), exec_defaultConfig (.kept known), alike, rfl,
            rfl⟩
      | unread unknown unread =>
          exact ⟨_, _, _, exec_defaultConfig (.unread unknown unread),
            exec_defaultConfig (.unread unknown unread), alike, rfl, rfl⟩
      | @made config unknown read =>
          have choosing : (configOrDefault none).Regular {} := regular_configOrDefault none
          have made : (configOrDefault none).exec first = _ :=
            exec_defaultConfig (.made unknown read)
          have evolves := choosing.evolves first
          rw [made] at evolves
          -- Both make it under one number: the configurations are the same in both sessions.
          have other_made : (configOrDefault none).exec (first.keeping loggers rules built) = _ :=
            exec_defaultConfig (.made unknown read)
          have other_evolves := choosing.evolves (first.keeping loggers rules built)
          rw [other_made] at other_evolves
          refine ⟨_, _, _, made, other_made, ⟨⟨_, _, _, rfl⟩, ?_, ?_, ?_⟩, rfl, rfl⟩
          · intro number
            rw [Session.standing_configured alike.reachable,
              Session.standing_configured alike.reachable_other, alike.standing]
            rfl
          · exact alike.reachable.trans evolves
          · exact alike.reachable_other.trans other_evolves

/-- Alike sessions find the same configuration for the argument of a call. -/
theorem callConfig_of_alike (alike : first.Alike second) (config : ConfigArgument)
    (extra : Fields String Value) : ∃ found, (callConfig config extra).exec first = (found, first) ∧
      (callConfig config extra).exec second = (found, second) := by
  obtain ⟨loggers, rules, built, rfl⟩ := alike.same
  have named (name : Option String) : ∃ found, (findConfig name).exec first = (found, first) ∧
      (findConfig name).exec (first.keeping loggers rules built) =
        (found, first.keeping loggers rules built) := by
    cases name with
    | none => exact ⟨_, rfl, rfl⟩
    | some name =>
        simp only [findConfig, exec_map, Act.config, object, exec_bind, exec_get, Session.keeping]
        cases first.objects.get? name with
        | none => exact ⟨_, rfl, rfl⟩
        | some object => cases object <;> exact ⟨_, rfl, rfl⟩
  unfold callConfig
  by_cases reserved : ["logger", "level", "message"].any (extra.has ·)
  · cases config <;> cases extra.get? "config" <;> simp [reserved]
  simp only [reserved, Bool.false_eq_true, if_false]
  cases config with
  | none => cases extra.get? "config" <;> exact ⟨_, rfl, rfl⟩
  | some name =>
      cases extra.get? "config" with
      | some given => exact ⟨_, rfl, rfl⟩
      | none =>
          obtain ⟨found, first_found, second_found⟩ := named name
          simp only [exec_bind, first_found, second_found]
          cases found <;> exact ⟨_, rfl, rfl⟩

end Act

end LogGate
