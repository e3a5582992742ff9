import Depot.Lock.Shards
import Mathlib.Data.List.Basic
import Mathlib.Data.Fin.VecNotation
import Mathlib.Logic.Function.Basic

/-!
# Tasks that take locks

Each of any number of tasks has one request.  It takes the shards of its request
one by one, in their order, and waits before a shard that is held.  When it has
them all it does its work, and then it gives them back one by one.  Between the
steps of a task any other task can make one of its own.

A shard is held by one task at most.  So tasks that name the same identifier
never work at the same time, for the identifier has one shard.  And tasks never
wait for each other in a circle: the shards of a request ascend, so a task that
holds a shard waits for a greater one only, and the number of shards bounds such
a chain (`Orderly.steps_of_held`).  Both hold however the steps of the tasks come
one after another (`interleaving_excludes_and_proceeds`).
-/

namespace Depot.Lock

set_option autoImplicit false

/-! ## The shards of a request -/

/-- The identifiers that a request names. -/
def Request.identifiers : Request → List String
  | .one identifier => [identifier]
  | .pair first second => [first, second]

namespace Shards

variable (s : Shards) {request : Request} {shard : Nat}

/-- A request takes the shards of its identifiers. -/
theorem mem_acquisition_iff : shard ∈ s.acquisition request ↔
    ∃ identifier, identifier ∈ request.identifiers ∧ s.shardOf identifier = shard := by
  cases request with
  | one identifier => simp [acquisition, Request.identifiers, eq_comm]
  | pair first second =>
      simp only [acquisition, Request.identifiers]
      split
      · next same => simp [same, eq_comm]
      · split
        · simp [eq_comm]
        · simp [eq_comm, or_comm]

/-- It takes them in ascending order, and none of them twice. -/
theorem acquisition_ascending (request : Request) :
    (s.acquisition request).Pairwise (· < ·) := by
  cases request with
  | one identifier => exact List.pairwise_singleton _ _
  | pair first second =>
      simp only [acquisition]
      split
      · exact List.pairwise_singleton _ _
      · next differ =>
          split
          · next below => exact List.pairwise_pair.mpr below
          · next reaches =>
              have above := Nat.lt_of_le_of_ne (Nat.le_of_not_lt reaches) (Ne.symm differ)
              exact List.pairwise_pair.mpr above

theorem lt_count_of_mem_acquisition (taken : shard ∈ s.acquisition request) :
    shard < s.count := by
  obtain ⟨identifier, -, rfl⟩ := s.mem_acquisition_iff.mp taken
  exact s.shardOf_lt identifier

end Shards

/-! ## Steps of a task -/

/-- Where a task stands: it has taken some of its shards and still wants the others, or it has done
its work and gives back what it holds.  It works while it wants none. -/
inductive Phase where
  | taking (held wanted : List Nat)
  | leaving (held : List Nat)
  deriving DecidableEq, Repr

namespace Phase

/-- The shards that a task holds. -/
def held : Phase → List Nat
  | .taking held _ => held
  | .leaving held => held

def finished : Phase := .leaving []

/-- The next step of a task.  The first shard that it wants is taken when it is free. -/
inductive Moves (free : Nat → Prop) : Phase → Phase → Prop
  | take {held wanted : List Nat} {shard : Nat} (unheld : free shard) :
      Moves free (.taking held (shard :: wanted)) (.taking (held ++ [shard]) wanted)
  | leave {held : List Nat} : Moves free (.taking held []) (.leaving held)
  | release {shard : Nat} {held : List Nat} : Moves free (.leaving (shard :: held)) (.leaving held)

/-- Whether a phase is one of a task that takes some shards in their order. -/
def Fits (acquisition : List Nat) : Phase → Prop
  | .taking held wanted => held ++ wanted = acquisition
  | .leaving held => held <:+ acquisition

variable {free : Nat → Prop} {phase next : Phase} {acquisition : List Nat} {shard : Nat}

theorem Moves.fits (moves : Moves free phase next) (fits : phase.Fits acquisition) :
    next.Fits acquisition := by
  cases moves with
  | take _ => exact (List.append_assoc _ _ _).trans fits
  | leave => exact ⟨[], (List.append_nil _).symm.trans fits⟩
  | release => exact (List.suffix_cons _ _).trans fits

/-- What a task holds after a step it held before, or it was free. -/
theorem Moves.held_or_free (moves : Moves free phase next) (holds : shard ∈ next.held) :
    shard ∈ phase.held ∨ free shard := by
  cases moves with
  | take unheld =>
      rcases List.mem_append.mp holds with before | new
      · exact .inl before
      · exact .inr (List.mem_singleton.mp new ▸ unheld)
  | leave => exact .inl holds
  | release => exact .inl (.tail _ holds)

theorem Fits.mem_of_held (fits : phase.Fits acquisition) (holds : shard ∈ phase.held) :
    shard ∈ acquisition := by
  cases phase with
  | taking held wanted => exact fits ▸ List.mem_append_left wanted holds
  | leaving held => exact List.IsSuffix.mem holds fits

/-- A task that has not come to its end can make a step, or it waits for a shard. -/
theorem moves_or_waits (unfinished : phase ≠ finished) (free : Nat → Prop) :
    (∃ next, Moves free phase next) ∨
      ∃ held shard wanted, phase = .taking held (shard :: wanted) ∧ ¬ free shard := by
  cases phase with
  | taking held wanted =>
      cases wanted with
      | nil => exact .inl ⟨_, .leave⟩
      | cons shard wanted =>
          by_cases unheld : free shard
          · exact .inl ⟨_, .take unheld⟩
          · exact .inr ⟨held, shard, wanted, rfl, unheld⟩
  | leaving held =>
      cases held with
      | nil => exact absurd rfl unfinished
      | cons shard held => exact .inl ⟨_, .release⟩

end Phase

/-! ## Tasks side by side -/

section

variable {Task : Type}

def Free (phases : Task → Phase) (shard : Nat) : Prop := ∀ task, shard ∉ (phases task).held

/-- The phases in which tasks begin: they hold nothing. -/
def begun (s : Shards) (requests : Task → Request) (task : Task) : Phase :=
  .taking [] (s.acquisition (requests task))

/-- Whether a task holds all shards of its request. -/
def HoldsAll (s : Shards) (requests : Task → Request) (phases : Task → Phase)
    (task : Task) : Prop :=
  s.acquisition (requests task) ⊆ (phases task).held

/-- What holds however far tasks have come. -/
structure Orderly (s : Shards) (requests : Task → Request) (phases : Task → Phase) : Prop where
  fits : ∀ task, (phases task).Fits (s.acquisition (requests task))
  /-- No shard is held by two tasks. -/
  apart : ∀ {task other : Task} {shard : Nat}, shard ∈ (phases task).held →
    shard ∈ (phases other).held → task = other

variable {s : Shards} {requests : Task → Request} {phases : Task → Phase}

namespace Orderly

theorem start : Orderly s requests (begun s requests) where
  fits _ := List.nil_append _
  apart holds _ := absurd holds List.not_mem_nil

/-- A task does its work with all its shards. -/
theorem holdsAll (orderly : Orderly s requests phases) {task : Task} {held : List Nat}
    (works : phases task = .taking held []) : HoldsAll s requests phases task := by
  have fits := orderly.fits task
  rw [works] at fits
  have whole : held = s.acquisition (requests task) := (List.append_nil _).symm.trans fits
  rw [HoldsAll, works, ← whole]
  exact List.Subset.refl held

/-- Tasks that name the same identifier do not both hold all their shards: it has one shard. -/
theorem alone (orderly : Orderly s requests phases) {task other : Task} {identifier : String}
    (named : identifier ∈ (requests task).identifiers)
    (named' : identifier ∈ (requests other).identifiers)
    (here : HoldsAll s requests phases task) (there : HoldsAll s requests phases other) :
    task = other := by
  have wanted := s.mem_acquisition_iff.mpr ⟨identifier, named, rfl⟩
  have wanted' := s.mem_acquisition_iff.mpr ⟨identifier, named', rfl⟩
  exact orderly.apart (here wanted) (there wanted')

end Orderly

/-! ## Interleavings -/

variable [DecidableEq Task]

/-- One of the tasks makes its next step. -/
inductive Step (phases : Task → Phase) : (Task → Phase) → Prop
  | of {task : Task} {next : Phase} (moves : (phases task).Moves (Free phases) next) :
      Step phases (Function.update phases task next)

/-- The phases that tasks with some requests can come to, in any order of their steps. -/
inductive Reached (s : Shards) (requests : Task → Request) : (Task → Phase) → Prop
  | start : Reached s requests (begun s requests)
  | step {phases next : Task → Phase} (reached : Reached s requests phases)
      (step : Step phases next) : Reached s requests next

/-- A step keeps tasks in order: a shard that is taken was held by nobody. -/
theorem Orderly.step {next : Task → Phase} (orderly : Orderly s requests phases)
    (step : Step phases next) : Orderly s requests next := by
  obtain @⟨mover, moved, moves⟩ := step
  -- What the mover holds now it held before, or nobody did.
  have fresh {other : Task} {shard : Nat} (differ : other ≠ mover)
      (there : shard ∈ (phases other).held) : shard ∉ moved.held := by
    intro here
    rcases moves.held_or_free here with before | free
    · exact differ (orderly.apart there before)
    · exact free other there
  constructor
  · intro task
    by_cases same : task = mover
    · subst same
      rw [Function.update_self]
      exact moves.fits (orderly.fits task)
    · rw [Function.update_of_ne same]
      exact orderly.fits task
  · intro task other shard here there
    by_cases first : task = mover <;> by_cases second : other = mover
    · exact first.trans second.symm
    · subst first
      rw [Function.update_self] at here
      rw [Function.update_of_ne second] at there
      exact absurd here (fresh second there)
    · subst second
      rw [Function.update_of_ne first] at here
      rw [Function.update_self] at there
      exact absurd there (fresh first here)
    · rw [Function.update_of_ne first] at here
      rw [Function.update_of_ne second] at there
      exact orderly.apart here there

theorem Reached.orderly (reached : Reached s requests phases) : Orderly s requests phases := by
  induction reached with
  | start => exact .start
  | step _ step ih => exact ih.step step

/-- A task that has not come to its end makes a step, or another one holds the shard for which it
waits; that shard is greater than all that it holds. -/
theorem Orderly.steps_or_waits (orderly : Orderly s requests phases) {task : Task}
    (unfinished : phases task ≠ Phase.finished) :
    (∃ next, Step phases next) ∨ ∃ shard holder, shard ∈ (phases holder).held ∧
      ∀ lower, lower ∈ (phases task).held → lower < shard := by
  rcases Phase.moves_or_waits unfinished (Free phases) with
    ⟨next, moves⟩ | ⟨held, shard, wanted, stands, taken⟩
  · exact .inl ⟨_, .of moves⟩
  · obtain ⟨holder, holds⟩ := not_forall_not.mp taken
    refine .inr ⟨shard, holder, holds, fun lower below => ?_⟩
    have fits := orderly.fits task
    have ascending := s.acquisition_ascending (requests task)
    rw [stands] at fits below
    rw [← show held ++ shard :: wanted = _ from fits, List.pairwise_append] at ascending
    exact ascending.2.2 lower below shard List.mem_cons_self

/-- When a shard is held, a step can be made: by its holder, or by one for whom the holder waits.
The shards ascend along the chain of those who wait, so it ends. -/
theorem Orderly.steps_of_held (orderly : Orderly s requests phases) {task : Task} {shard : Nat}
    (holds : shard ∈ (phases task).held) : ∃ next, Step phases next := by
  have unfinished : phases task ≠ Phase.finished := by
    intro ended
    rw [ended] at holds
    cases holds
  rcases orderly.steps_or_waits unfinished with steps | ⟨greater, holder, there, above⟩
  · exact steps
  · have below := above shard holds
    have bounded : greater < s.count :=
      s.lt_count_of_mem_acquisition ((orderly.fits holder).mem_of_held there)
    exact orderly.steps_of_held there
termination_by s.count - shard

/-! ## Requests that are granted at once -/

/-- A task takes shards that are free, one after another. -/
theorem Reached.take_all (reached : Reached s requests phases) {task : Task}
    {held wanted : List Nat} (stands : phases task = .taking held wanted)
    (free : ∀ shard, shard ∈ wanted → Free phases shard) (distinct : wanted.Nodup) :
    Reached s requests (Function.update phases task (.taking (held ++ wanted) [])) := by
  induction wanted generalizing phases held with
  | nil => rwa [List.append_nil, ← stands, Function.update_eq_self]
  | cons shard wanted ih =>
      obtain ⟨absent, distinct⟩ := List.nodup_cons.mp distinct
      have unheld := free shard List.mem_cons_self
      have moves : (phases task).Moves (Free phases) (.taking (held ++ [shard]) wanted) :=
        stands ▸ .take unheld
      -- The shard that was taken is none of those still wanted, so they are as free as before.
      have later : ∀ other, other ∈ wanted →
          Free (Function.update phases task (.taking (held ++ [shard]) wanted)) other := by
        intro other member holder
        have before := free other (.tail _ member)
        by_cases same : holder = task
        · subst same
          have absentBefore := before holder
          rw [stands] at absentBefore
          rw [Function.update_self]
          intro here
          rcases List.mem_append.mp here with old | new
          · exact absentBefore old
          · exact absent (List.mem_singleton.mp new ▸ member)
        · rw [Function.update_of_ne same]
          exact before holder
      have onward := ih (reached.step (.of moves)) (Function.update_self ..) later distinct
      rwa [Function.update_idem, List.append_assoc, List.singleton_append] at onward

/-- **A request that is granted at once is one whose task takes its shards step by step.** -/
theorem Reached.of_tryTake (reached : Reached s requests phases) {task : Task}
    (begins : phases task = begun s requests task) {busy busy' : Held}
    (known : ∀ holder shard, shard ∈ (phases holder).held → shard ∈ busy)
    (granted : s.tryTake busy (requests task) = some busy') :
    Reached s requests
      (Function.update phases task (.taking (s.acquisition (requests task)) [])) := by
  refine reached.take_all begins ?_ ((s.acquisition_ascending _).imp Nat.ne_of_lt)
  intro shard wanted holder holds
  have blocked : (s.acquisition (requests task)).any busy.contains :=
    List.any_eq_true.mpr ⟨shard, wanted, by simpa using known holder shard holds⟩
  rw [Shards.tryTake, if_pos blocked] at granted
  cases granted

end

/-- **Tasks exclude each other, and never stop for good.**  Take shards of any number, told apart by
any hash, and any tasks, each with a request for one identifier or for two.  Wherever their steps
have brought them, in whatever order these were made: no shard is held by two tasks; a task works
only while it holds all its shards; two tasks that name the same identifier never both hold all of
theirs; and as long as a task has not come to its end, some task can make its next step. -/
theorem interleaving_excludes_and_proceeds {Task : Type} [DecidableEq Task]
    (hash : String → UInt64) (count : Nat) (requests : Task → Request) {phases : Task → Phase}
    (reached : Reached (.ofHash hash count) requests phases) :
    (∀ task other shard, shard ∈ (phases task).held → shard ∈ (phases other).held →
      task = other) ∧
    (∀ task held, phases task = .taking held [] →
      HoldsAll (.ofHash hash count) requests phases task) ∧
    (∀ task other identifier, identifier ∈ (requests task).identifiers →
      identifier ∈ (requests other).identifiers →
      HoldsAll (.ofHash hash count) requests phases task →
      HoldsAll (.ofHash hash count) requests phases other → task = other) ∧
    ((∃ task, phases task ≠ Phase.finished) → ∃ next, Step phases next) := by
  have orderly := reached.orderly
  refine ⟨fun _ _ _ => orderly.apart, fun _ _ => orderly.holdsAll, ?_, ?_⟩
  · intro task other identifier named named'
    exact orderly.alone named named'
  · rintro ⟨task, unfinished⟩
    rcases orderly.steps_or_waits unfinished with steps | ⟨_, _, holds, -⟩
    · exact steps
    · exact orderly.steps_of_held holds

/-- Two pairs in opposite orders and one identifier of theirs alone: the second pair waits for the
first, and the first for the third task. -/
theorem chain_of_waits_proceeds :
    let shards := Shards.ofHash (fun text => if text = "left" then 1 else 0) 2
    let requests : Fin 3 → Request :=
      ![.pair "left" "right", .pair "right" "left", .one "left"]
    let phases := Function.update
      (Function.update (begun shards requests) 2 (.taking [1] [])) 0 (.taking [0] [1])
    Reached shards requests phases ∧ phases 1 = .taking [] [0, 1] ∧
      ¬ HoldsAll shards requests phases 0 ∧ ∃ next, Step phases next := by
  intro shards requests phases
  have granted : shards.tryTake [] (requests 2) = some [1] := by decide
  have first : Reached shards requests
      (Function.update (begun shards requests) 2 (.taking [1] [])) :=
    Reached.start.of_tryTake rfl (by decide) granted
  have free : Free (Function.update (begun shards requests) 2 (.taking [1] [])) 0 := by
    unfold Free
    decide
  have moves : (begun shards requests 0).Moves
      (Free (Function.update (begun shards requests) 2 (.taking [1] []))) (.taking [0] [1]) :=
    .take free
  have reached : Reached shards requests phases := first.step (.of moves)
  obtain ⟨-, works, common, proceeds⟩ :=
    interleaving_excludes_and_proceeds _ 2 requests reached
  refine ⟨reached, by decide, ?_, proceeds ⟨0, by decide⟩⟩
  intro all
  exact absurd (common 0 2 "left" (by decide) (by decide) all (works 2 [1] (by decide))) (by decide)

end Depot.Lock
