import LogGate.Proofs.Interning

/-!
Levels by rank. A number stands for the first level that was registered with this rank, for good, and the
levels are listed by rank, those of one rank in the order in which they were registered.
-/

namespace LogGate

namespace Registry

variable {registry later : Registry} {number : Int} {level : Level}

/-- The levels that a registry has issued, in the order in which they were registered. -/
def issued (registry : Registry) : List Level := registry.byName.map (·.2)

section Registering

variable {name : Value} {rank : Int}

/-- A new level comes after all others. -/
theorem issued_add {name : String} (free : registry.byName.get? name = none) (rank : Int) :
    (registry.add name rank).issued = registry.issued ++ [⟨name, rank, true⟩] := by
  rw [issued, add, Fields.put_of_fresh (Fields.not_mem_of_get?_eq_none free), List.map_append]
  rfl

/-- No level of a free name was issued. -/
theorem Interned.not_mem_issued (interned : registry.Interned) {name : String}
    (free : registry.byName.get? name = none) (rank : Int) : ⟨name, rank, true⟩ ∉ registry.issued := by
  intro member
  obtain ⟨entry, inside, same⟩ := List.mem_map.mp member
  have named : entry.1 = name := by rw [← (interned.named entry inside).1, same]
  apply Fields.not_mem_of_get?_eq_none free
  rw [← named]
  exact List.mem_map_of_mem inside

/-- A registration issues its level, unless this was issued before. -/
theorem Interned.issued_register (interned : registry.Interned)
    (registered : registry.register name rank = .ok (level, later)) :
    later.issued =
      if level ∈ registry.issued then registry.issued else registry.issued ++ [level] := by
  obtain ⟨content, -, -, ⟨found, -, rfl⟩ | ⟨free, rfl, rfl⟩⟩ := register_cases registered
  · have member : level ∈ later.issued := List.mem_map_of_mem (Fields.mem_of_get? found)
    rw [if_pos member]
  · rw [find?] at free
    rw [if_neg (interned.not_mem_issued free rank), issued_add free]

/-- Registering adds at most one level, at the end. -/
theorem issued_prefix_of_register (registered : registry.register name rank = .ok (level, later)) :
    registry.issued <+: later.issued := by
  obtain ⟨content, -, -, ⟨-, -, rfl⟩ | ⟨free, -, rfl⟩⟩ := register_cases registered
  · exact List.prefix_rfl
  · rw [find?] at free
    rw [issued_add free]
    exact List.prefix_append _ _

end Registering

section Ranks

/-- The table of ranks has for each rank the first level that was issued with it. -/
def RanksFirst (registry : Registry) : Prop :=
  ∀ rank, registry.byRank.get? rank = registry.issued.find? (·.rank == rank)

/-- A table of levels under their ranks has the first level of each rank. -/
theorem get?_map_rank (levels : List Level) (rank : Int) :
    Fields.get? (levels.map fun level => (level.rank, level)) rank =
      levels.find? (·.rank == rank) := by
  induction levels with
  | nil => rfl
  | cons first rest ih =>
      rw [List.map_cons, Fields.get?_cons, List.find?_cons, ih]
      cases first.rank == rank <;> rfl

/-- Of the standard levels the first one of each rank is the one that is found. -/
theorem ranksFirst_standard : standard.RanksFirst := by
  intro rank
  have table : standard.byRank = standard.issued.map fun level => (level.rank, level) := rfl
  rw [table]
  exact get?_map_rank standard.issued rank

/-- A new level is found under its rank only if no other level was. -/
theorem RanksFirst.add (first : registry.RanksFirst) {name : String}
    (free : registry.byName.get? name = none) (rank : Int) :
    (registry.add name rank).RanksFirst := by
  intro other
  rw [issued_add free, List.find?_append, ← first other, Registry.add]
  by_cases same : rank == other
  · rw [← eq_of_beq same]
    cases found : registry.byRank.get? rank with
    | none =>
        have vacant : registry.byRank.has rank = false := by
          rw [← Fields.isSome_get?, found, Option.isSome_none]
        simp [vacant, Fields.get?_put_self]
    | some level =>
        have taken : registry.byRank.has rank = true := by
          rw [← Fields.isSome_get?, found, Option.isSome_some]
        simp [taken, found]
  · have apart : [(⟨name, rank, true⟩ : Level)].find? (·.rank == other) = none := by
      simpa using same
    rw [apart, Option.or_none]
    dsimp only
    split
    · rfl
    · exact Fields.get?_put_of_ne _ _ (by simpa using same)

/-- In every registry that can be reached, a number means the first level that was issued with it. -/
theorem Reachable.ranksFirst (reached : registry.Reachable) : registry.RanksFirst := by
  induction reached with
  | standard => exact ranksFirst_standard
  | register _ registered ih =>
      obtain ⟨content, -, -, ⟨-, -, rfl⟩ | ⟨free, -, rfl⟩⟩ := register_cases registered
      · exact ih
      · exact ih.add free _

/-- A number stands for the first level of its rank, or else for a level of its own. -/
theorem Reachable.ofNumber_eq (reached : registry.Reachable) (number : Int) :
    registry.ofNumber number = (registry.issued.find? (·.rank == number)).getD
      ⟨Level.numberName number, number, false⟩ := by
  rw [ofNumber, reached.ranksFirst number]

/-- A number whose rank was issued stands for the first level that has it. -/
theorem Reachable.exists_found (reached : registry.Reachable)
    (known : ∃ level ∈ registry.issued, level.rank = number) : ∃ level,
      registry.issued.find? (·.rank == number) = some level ∧ registry.ofNumber number = level := by
  obtain ⟨level, member, ranked⟩ := known
  have some : (registry.issued.find? (·.rank == number)).isSome = true :=
    List.find?_isSome.mpr ⟨level, member, by simpa using ranked⟩
  obtain ⟨first, found⟩ := Option.isSome_iff_exists.mp some
  exact ⟨first, found, by rw [reached.ofNumber_eq, found, Option.getD_some]⟩

/-- The level of a number is an issued one exactly if a level of this rank was issued. -/
theorem Reachable.ofNumber_mem_iff (reached : registry.Reachable) (number : Int) :
    registry.ofNumber number ∈ registry.issued ↔ ∃ level ∈ registry.issued, level.rank = number := by
  constructor
  · intro member
    exact ⟨_, member, rank_ofNumber reached number⟩
  · intro known
    obtain ⟨level, found, same⟩ := reached.exists_found known
    rw [same]
    exact List.mem_of_find?_eq_some found

/-- No level before it has its rank. -/
theorem Reachable.first_of_mem (reached : registry.Reachable)
    (member : registry.ofNumber number ∈ registry.issued) : ∃ before after,
      registry.issued = before ++ registry.ofNumber number :: after ∧
        ∀ other ∈ before, other.rank ≠ number := by
  obtain ⟨level, found, same⟩ := reached.exists_found ((reached.ofNumber_mem_iff number).mp member)
  obtain ⟨-, before, after, split, others⟩ := List.find?_eq_some_iff_append.mp found
  refine ⟨before, after, by rw [same, split], fun other inside => ?_⟩
  simpa using others other inside

end Ranks

section Sorting

/-- No level was issued twice, as every level has a name of its own. -/
theorem Interned.nodup_issued (interned : registry.Interned) : registry.issued.Nodup := by
  have names : registry.issued.map (·.name) = registry.byName.map (·.1) := by
    rw [issued, List.map_map]
    exact List.map_congr_left fun entry member => (interned.named entry member).1
  apply List.Nodup.of_map (·.name)
  rw [names]
  exact interned.distinct

/-- Sorting neither adds nor loses a level. -/
theorem sorted_perm_issued (registry : Registry) : registry.sorted.Perm registry.issued :=
  List.mergeSort_perm _ _

/-- Levels are compared by a total preorder, their ranks. -/
theorem rank_trans (first second third : Level) :
    decide (first.rank ≤ second.rank) = true → decide (second.rank ≤ third.rank) = true →
      decide (first.rank ≤ third.rank) = true := by
  simp only [decide_eq_true_eq]
  omega

/-- Any two levels can be ordered. -/
theorem rank_total (first second : Level) :
    (decide (first.rank ≤ second.rank) || decide (second.rank ≤ first.rank)) = true := by
  simp only [Bool.or_eq_true, decide_eq_true_eq]
  omega

/-- Ranks do not fall along the sorted levels. -/
theorem sorted_pairwise (registry : Registry) :
    registry.sorted.Pairwise fun first second => first.rank ≤ second.rank := by
  have ordered := List.pairwise_mergeSort rank_trans rank_total registry.issued
  simpa only [sorted, issued, decide_eq_true_eq] using ordered

/-- Levels of one rank are listed in the order in which they were issued. -/
theorem filter_sorted (registry : Registry) (rank : Int) :
    registry.sorted.filter (·.rank == rank) = registry.issued.filter (·.rank == rank) := by
  have equal : (registry.issued.filter (·.rank == rank)).Pairwise
      fun first second => decide (first.rank ≤ second.rank) = true := by
    apply List.pairwise_of_forall_mem_list
    intro first inside second others
    simp only [List.mem_filter, beq_iff_eq] at inside others
    simp [inside.2, others.2]
  have kept : (registry.issued.filter (·.rank == rank)).Sublist registry.sorted :=
    List.sublist_mergeSort rank_trans rank_total equal List.filter_sublist
  have again := kept.filter (·.rank == rank)
  rw [List.filter_filter] at again
  simp only [Bool.and_self] at again
  exact (again.eq_of_length ((sorted_perm_issued registry).filter _).length_eq.symm).symm

end Sorting

end Registry

/-- Levels that were issued stay in their places. -/
theorem Session.Evolves.issued_prefix {session later : Session} (evolved : session.Evolves later) :
    session.registry.issued <+: later.registry.issued := by
  induction evolved with
  | refl => exact List.prefix_rfl
  | tail _ changed ih =>
      apply ih.trans
      cases changed with
      | registered registered => exact Registry.issued_prefix_of_register registered
      | _ => exact List.prefix_rfl

/-- The level that was issued first with a rank is found under it from then on. -/
theorem Session.Evolves.ofNumber_eq {session later : Session} (reached : session.Reachable)
    (evolved : session.Evolves later) {number : Int}
    (known : ∃ level ∈ session.registry.issued, level.rank = number) :
    later.registry.ofNumber number = session.registry.ofNumber number := by
  obtain ⟨level, found, same⟩ := reached.consistent.registry.exists_found known
  have still : later.Reachable := reached.trans evolved
  rw [still.consistent.registry.ofNumber_eq, evolved.issued_prefix.find?_eq_some found, same,
    Option.getD_some]

/-- After any script, a number stands for the first level that was registered with this rank, now and after
every further script, or for an unregistered level of this rank if there is none. All registered levels are
listed once, by rank, and those of one rank in the order in which they were registered. -/
theorem numbers_stand_for_first_levels (start : Ambient) (steps : List Step) :
    let session := (runAll start Session.initial steps).2.2
    let registry := session.registry
    (∀ (name : Value) (rank : Int) (level : Level) (grown : Registry),
      registry.register name rank = .ok (level, grown) → grown.issued =
        if level ∈ registry.issued then registry.issued else registry.issued ++ [level]) ∧
    (∀ number, (registry.ofNumber number).rank = number ∧
      (registry.ofNumber number ∈ registry.issued ↔
        ∃ level ∈ registry.issued, level.rank = number) ∧
      (registry.ofNumber number ∈ registry.issued →
        (∃ before after, registry.issued = before ++ registry.ofNumber number :: after ∧
          ∀ other ∈ before, other.rank ≠ number) ∧
        ∀ (next : Ambient) (more : List Step),
          let later := (runAll next session more).2.2.registry
          registry.issued <+: later.issued ∧
            later.ofNumber number = registry.ofNumber number)) ∧
    registry.issued.Nodup ∧ registry.sorted.Perm registry.issued ∧
    (registry.sorted.Pairwise fun first second => first.rank ≤ second.rank) ∧
    ∀ rank, registry.sorted.filter (·.rank == rank) = registry.issued.filter (·.rank == rank) := by
  intro session registry
  have reached : session.Reachable := reachable_runAll start steps
  have registrations : registry.Reachable := reached.consistent.registry
  have interned := registrations.interned
  refine ⟨fun name rank level grown registered => interned.issued_register registered, ?_,
    interned.nodup_issued, registry.sorted_perm_issued, registry.sorted_pairwise,
    registry.filter_sorted⟩
  intro number
  have member_iff := registrations.ofNumber_mem_iff number
  refine ⟨Registry.rank_ofNumber registrations number, member_iff, fun member => ⟨?_, ?_⟩⟩
  · exact registrations.first_of_mem member
  · intro next more later
    have evolved : session.Evolves (runAll next session more).2.2 := evolves_runAll next session more
    exact ⟨evolved.issued_prefix, evolved.ofNumber_eq reached (member_iff.mp member)⟩

/-- Two levels share a rank, one registration fails, and the first level of the rank stays the first when a
third one comes. -/
theorem numbers_stand_for_first_levels_of_audit :
    let session := (runAll ⟨0, []⟩ Session.initial
      [.operation (.register none (.text " audit") 35),
        .operation (.register none (.text "Audit") 36),
        .operation (.register none (.text "trail") 35)]).2.2
    let later := (runAll ⟨0, []⟩ session [.operation (.register none (.text "late") 35)]).2.2
    later.registry.ofNumber 35 = ⟨"AUDIT", 35, true⟩ ∧
      session.registry.ofNumber 36 ∉ session.registry.issued ∧
      session.registry.sorted.filter (·.rank == 35) =
        [⟨"AUDIT", 35, true⟩, ⟨"TRAIL", 35, true⟩] := by
  intro session later
  obtain ⟨-, numbers, -, -, -, sorted⟩ := numbers_stand_for_first_levels ⟨0, []⟩
    [.operation (.register none (.text " audit") 35),
      .operation (.register none (.text "Audit") 36),
      .operation (.register none (.text "trail") 35)]
  have known : session.registry.ofNumber 35 = ⟨"AUDIT", 35, true⟩ := by
    dsimp only [session]
    decide +kernel
  have member : session.registry.ofNumber 35 ∈ session.registry.issued := by
    dsimp only [session]
    decide +kernel
  have lasting := ((numbers 35).2.2 member).2 ⟨0, []⟩ [.operation (.register none (.text "late") 35)]
  have vacant : ∀ level ∈ session.registry.issued, level.rank ≠ 36 := by
    dsimp only [session]
    decide +kernel
  refine ⟨lasting.2.trans known, ?_, ?_⟩
  · intro inside
    obtain ⟨level, issued, ranked⟩ := (numbers 36).2.1.mp inside
    exact vacant level issued ranked
  · rw [sorted 35]
    decide +kernel

end LogGate
