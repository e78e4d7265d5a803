import Mathlib
import Harvest.Proofs.Regex.Search

/-!
# Groups end behind their beginnings

Every address of a program has a depth in a group: the number of times that the group is entered
and not left yet when a thread comes to the address, whatever way it takes.  A thread that arrives
at the end of the program has left the group as often as it has entered it, so the last mark for the
end of the group is behind the last mark for its beginning.
-/

namespace Harvest.Regex

variable {group : Nat}

/-! ## Depths -/

/-- Whether a step at an address with the depth `level` leads to addresses below `size`, with the
depths that follow from whether it enters or leaves the group. -/
def Step.Keeps (group : Nat) (depth : Nat → Nat) (size level : Nat) : Step → Prop
  | .char _ next | .byte _ next | .look _ next => next < size ∧ depth next = level
  | .mark slot next =>
      next < size ∧
        if slot = 2 * group then depth next = level + 1
        else if slot = 2 * group + 1 then level = depth next + 1
        else depth next = level
  | .fork first second =>
      (first < size ∧ depth first = level) ∧ second < size ∧ depth second = level
  | .accept => level = 0

/-- Whether depths fit to the steps of a program, but for those that will be replaced yet. -/
def Labels (group : Nat) (pending : Nat → Prop) (steps : Array Step) (depth : Nat → Nat) : Prop :=
  ∀ address step, steps[address]? = some step → ¬ pending address →
    step.Keeps group depth steps.size (depth address)

/-- Steps that have been added, with their depths. -/
structure Grows (group : Nat) (pending : Nat → Prop) (steps steps' : Array Step)
    (depth depth' : Nat → Nat) : Prop where
  size : steps.size ≤ steps'.size
  same : ∀ address < steps.size, depth' address = depth address
  labels : Labels group pending steps' depth'

theorem Step.Keeps.mono {depth depth' : Nat → Nat} {size size' level : Nat} {step : Step}
    (keeps : step.Keeps group depth size level) (le : size ≤ size')
    (same : ∀ i < size, depth' i = depth i) : step.Keeps group depth' size' level := by
  cases step with
  | char set next | byte set next | look look next =>
      obtain ⟨inside, own⟩ := keeps
      exact ⟨inside.trans_le le, (same _ inside).trans own⟩
  | mark slot next =>
      obtain ⟨inside, own⟩ := keeps
      refine ⟨inside.trans_le le, ?_⟩
      rwa [same _ inside]
  | fork first second =>
      obtain ⟨⟨inside, own⟩, inside', own'⟩ := keeps
      exact ⟨⟨inside.trans_le le, (same _ inside).trans own⟩,
        inside'.trans_le le, (same _ inside').trans own'⟩
  | accept => exact keeps

/-- A fork keeps the depth that both of its ways have. -/
theorem keeps_forkTo {depth : Nat → Nat} {size level entry stop : Nat} (greedy : Bool)
    (inside : entry < size) (same : depth entry = level) (inside' : stop < size)
    (same' : depth stop = level) :
    (Assemble.forkTo greedy entry stop).Keeps group depth size level := by
  cases greedy with
  | true => exact ⟨⟨inside, same⟩, inside', same'⟩
  | false => exact ⟨⟨inside', same'⟩, inside, same⟩

section Assembling

variable {pending : Nat → Prop} {steps steps' : Array Step} {depth depth' : Nat → Nat}

theorem Grows.refl (labels : Labels group pending steps depth) :
    Grows group pending steps steps depth depth :=
  ⟨le_rfl, fun _ _ => rfl, labels⟩

theorem Grows.trans {steps'' : Array Step} {depth'' : Nat → Nat}
    (one : Grows group pending steps steps' depth depth')
    (two : Grows group pending steps' steps'' depth' depth'') :
    Grows group pending steps steps'' depth depth'' where
  size := one.size.trans two.size
  same i here := (two.same i (here.trans_le one.size)).trans (one.same i here)
  labels := two.labels

theorem Labels.grows_push (labels : Labels group pending steps depth) (step : Step) (level : Nat)
    (keeps : ¬ pending steps.size → step.Keeps group depth steps.size level) :
    Grows group pending steps (steps.push step) depth
      (Function.update depth steps.size level) := by
  have same : ∀ i < steps.size, Function.update depth steps.size level i = depth i :=
    fun i here => Function.update_of_ne here.ne level depth
  refine ⟨by rw [Array.size_push]; exact Nat.le_succ _, same, fun address step' found settled => ?_⟩
  rw [Array.size_push]
  rw [Array.getElem?_push] at found
  split at found
  · next last =>
      cases found
      subst last
      rw [Function.update_self]
      exact (keeps settled).mono (Nat.le_succ _) same
  · have here := (Array.getElem?_eq_some_iff.mp found).1
    rw [same _ here]
    exact (labels address step' found settled).mono (Nat.le_succ _) same

/-- A step that has been waited for is filled in. -/
theorem Labels.fill {address : Nat} {step : Step}
    (labels : Labels group (fun i => pending i ∨ i = address) steps depth)
    (keeps : step.Keeps group depth steps.size (depth address)) :
    Labels group pending (steps.setIfInBounds address step) depth := by
  intro other step' found settled
  rw [Array.size_setIfInBounds]
  rw [Array.getElem?_setIfInBounds] at found
  split at found
  · next here =>
      subst here
      split at found
      · cases found
        exact keeps
      · cases found
  · next apart =>
      exact labels other step' found fun waits => waits.elim settled fun last => apart last.symm

theorem run_bind {α β : Type} {once : Assemble α} {then_ : α → Assemble β} {a : α}
    (own : once.run steps = (a, steps')) : (once >>= then_).run steps = (then_ a).run steps' := by
  rw [StateT.run_bind, own]
  rfl

theorem run_emit (step : Step) (steps : Array Step) :
    (Assemble.emit step).run steps = (steps.size, steps.push step) := rfl

/-- Whether steps are added that a thread begins with at an address of some depth. -/
def Builds (group : Nat) (pending : Nat → Prop) (steps : Array Step) (depth : Nat → Nat)
    (level : Nat) (part : Assemble Nat) : Prop :=
  ∃ entry steps' depth', part.run steps = (entry, steps') ∧
    Grows group pending steps steps' depth depth' ∧ entry < steps'.size ∧ depth' entry = level

namespace Builds

variable {level level' : Nat}

theorem skip {next : Nat} (labels : Labels group pending steps depth) (inside : next < steps.size) :
    Builds group pending steps depth (depth next) (return next) :=
  ⟨next, steps, depth, rfl, .refl labels, inside, rfl⟩

theorem emit {step : Step} (labels : Labels group pending steps depth)
    (keeps : step.Keeps group depth steps.size level) :
    Builds group pending steps depth level (Assemble.emit step) := by
  refine ⟨steps.size, _, _, rfl, labels.grows_push _ _ fun _ => keeps, ?_, Function.update_self ..⟩
  rw [Array.size_push]
  exact Nat.lt_succ_self _

theorem bind {part : Assemble Nat} {others : Nat → Assemble Nat}
    (front : Builds group pending steps depth level part)
    (back : ∀ entry steps' depth', Grows group pending steps steps' depth depth' →
      entry < steps'.size → depth' entry = level →
      Builds group pending steps' depth' level' (others entry)) :
    Builds group pending steps depth level' (part >>= others) := by
  obtain ⟨entry, steps', depth', own, grows, inside, same⟩ := front
  obtain ⟨entry', steps'', depth'', own', grows', inside', same'⟩ :=
    back entry steps' depth' grows inside same
  exact ⟨entry', steps'', depth'', (run_bind own).trans own', grows.trans grows', inside', same'⟩

end Builds

/-- Whether a part of a program, wherever it goes on, begins at the same depth. -/
def IsBalanced (group : Nat) (once : Nat → Assemble Nat) : Prop :=
  ∀ (pending : Nat → Prop) (steps : Array Step) (depth : Nat → Nat) (next : Nat),
    Labels group pending steps depth → next < steps.size →
      Builds group pending steps depth (depth next) (once next)

namespace IsBalanced

variable {once twice : Nat → Assemble Nat}

theorem skip : IsBalanced group fun next => return next :=
  fun _ _ _ _ labels inside => .skip labels inside

theorem emit {step : Nat → Step}
    (keeps : ∀ depth size next, next < size → (step next).Keeps group depth size (depth next)) :
    IsBalanced group fun next => Assemble.emit (step next) :=
  fun _ _ _ next labels inside => .emit labels (keeps _ _ next inside)

theorem bind (front : IsBalanced group once) (back : IsBalanced group twice) :
    IsBalanced group fun next => once next >>= twice := by
  intro pending steps depth next labels inside
  refine (front pending steps depth next labels inside).bind fun entry steps' depth' grows
    inside' same => ?_
  rw [← same]
  exact back pending steps' depth' entry grows.labels inside'

theorem copies (body : IsBalanced group once) (count : Nat) :
    IsBalanced group (Assemble.copies once count) := by
  induction count with
  | zero => exact skip
  | succ count ih => exact body.bind ih

theorem literal (bytes : Bytes) : IsBalanced group (Assemble.literal bytes) := by
  induction bytes with
  | nil => exact skip
  | cons b bs ih => exact ih.bind (emit fun _ _ _ inside => ⟨inside, rfl⟩)

/-- Optional parts, each of which may go on at `stop` instead. -/
theorem options (body : IsBalanced group once) (greedy : Bool) (count : Nat) {stop next : Nat}
    (labels : Labels group pending steps depth) (inside : next < steps.size)
    (inside' : stop < steps.size) (level : depth stop = depth next) :
    Builds group pending steps depth (depth next)
      (Assemble.options once greedy stop count next) := by
  induction count generalizing steps depth next with
  | zero => exact .skip labels inside
  | succ count ih =>
      refine (body pending steps depth next labels inside).bind fun entry steps' depth' grows
        begun same => ?_
      have further := inside'.trans_le grows.size
      have level' := (grows.same stop inside').trans level
      refine (Builds.emit grows.labels (keeps_forkTo greedy begun same further level')).bind
        fun address steps'' depth'' grows' forked same' => ?_
      rw [← same']
      refine ih grows'.labels forked (further.trans_le grows'.size) ?_
      rw [grows'.same stop further, level', same']

/-- A place is kept free for the fork that leads back, and filled when it is known what the fork
leads back to. -/
theorem around (body : IsBalanced group once) (greedy : Bool) {next : Nat}
    (labels : Labels group pending steps depth) (inside : next < steps.size) :
    ∃ entry steps' depth', (once steps.size).run (steps.push .accept) = (entry, steps') ∧
      Grows group pending steps
        (steps'.setIfInBounds steps.size (Assemble.forkTo greedy entry next)) depth depth' ∧
      entry < steps'.size ∧ depth' entry = depth next ∧ steps.size < steps'.size ∧
      depth' steps.size = depth next := by
  have waiting : Labels group (fun i => pending i ∨ i = steps.size) steps depth :=
    fun address step found settled => labels address step found fun p => settled (.inl p)
  have placed := waiting.grows_push .accept (depth next) fun settled => absurd (.inr rfl) settled
  have here : steps.size < (steps.push Step.accept).size := by
    rw [Array.size_push]
    exact Nat.lt_succ_self _
  obtain ⟨entry, steps', depth', own, grows, begun, same⟩ := body _ _ _ _ placed.labels here
  rw [Function.update_self] at same
  have back : depth' steps.size = depth next := by
    rw [grows.same _ here, Function.update_self]
  have whole := placed.trans grows
  have behind := here.trans_le grows.size
  refine ⟨entry, steps', depth', own, ⟨?_, whole.same, ?_⟩, begun, same, behind, back⟩
  · rw [Array.size_setIfInBounds]
    exact whole.size
  · refine whole.labels.fill ?_
    rw [back]
    exact keeps_forkTo greedy begun same (inside.trans behind) (whole.same next inside)

theorem loop (body : IsBalanced group once) (greedy : Bool) :
    IsBalanced group (Assemble.loop once greedy) := by
  intro pending steps depth next labels inside
  obtain ⟨entry, steps', depth', own, grows, begun, same, -⟩ := body.around greedy labels inside
  refine ⟨entry, _, depth', ?_, grows, ?_, same⟩
  · rw [Assemble.loop, run_bind (run_emit .accept steps), run_bind own]
    rfl
  · rwa [Array.size_setIfInBounds]

theorem repetition (body : IsBalanced group once) (takesInput : Bool) (min : Nat)
    (max : Option Nat) (greedy : Bool) :
    IsBalanced group (Assemble.repetition once takesInput min max greedy) := by
  intro pending steps depth next labels inside
  cases max with
  | some max =>
      rw [Assemble.repetition]
      refine (body.options greedy (max - min) labels inside inside rfl).bind
        fun entry steps' depth' grows begun same => ?_
      rw [← same]
      exact body.copies min pending steps' depth' entry grows.labels begun
  | none =>
      cases min with
      | succ min =>
          have whole := (body.loop greedy).bind (body.copies min)
          exact whole pending steps depth next labels inside
      | zero =>
          cases takesInput with
          | true =>
              obtain ⟨entry, steps', depth', own, grows, -, -, back, same⟩ :=
                body.around greedy labels inside
              refine ⟨steps.size, _, depth', ?_, grows, ?_, same⟩
              · rw [Assemble.repetition]
                simp only [if_true]
                rw [run_bind (run_emit .accept steps), run_bind own]
                rfl
              · rwa [Array.size_setIfInBounds]
          | false =>
              refine (body.loop greedy pending steps depth next labels inside).bind
                fun entry steps' depth' grows begun same => ?_
              exact .emit grows.labels (keeps_forkTo greedy begun same
                (inside.trans_le grows.size) (grows.same next inside))

theorem captured (body : IsBalanced group once) (index : Nat) :
    IsBalanced group fun next => (do
      let stop ← Assemble.emit (.mark (2 * index + 1) next)
      Assemble.emit (.mark (2 * index) (← once stop))) := by
  intro pending steps depth next labels inside
  -- inside the group the depth is greater by one
  have closing : (Step.mark (2 * index + 1) next).Keeps group depth steps.size
      (depth next + if index = group then 1 else 0) := by
    refine ⟨inside, ?_⟩
    rw [if_neg (by omega)]
    by_cases own : index = group
    · rw [if_pos (by rw [own]), if_pos own]
    · rw [if_neg (by omega), if_neg own, Nat.add_zero]
  refine (Builds.emit labels closing).bind fun stop steps' depth' grows begun same => ?_
  refine (body pending steps' depth' stop grows.labels begun).bind
    fun entry steps'' depth'' grows' begun' same' => ?_
  refine .emit grows'.labels ⟨begun', ?_⟩
  rw [same', same]
  by_cases own : index = group
  · rw [if_pos (by rw [own]), if_pos own]
  · rw [if_neg (by omega), if_neg (by omega), if_neg own, Nat.add_zero]

theorem either (front : IsBalanced group once) (back : IsBalanced group twice) :
    IsBalanced group fun next => (do
      let first ← once next
      let second ← twice next
      Assemble.emit (.fork first second)) := by
  intro pending steps depth next labels inside
  refine (front pending steps depth next labels inside).bind
    fun entry steps' depth' grows begun same => ?_
  refine (back pending steps' depth' next grows.labels (inside.trans_le grows.size)).bind
    fun entry' steps'' depth'' grows' begun' same' => ?_
  exact .emit grows'.labels
    ⟨⟨begun.trans_le grows'.size, (grows'.same entry begun).trans same⟩,
      begun', same'.trans (grows.same next inside)⟩

theorem expr (e : Expr) : IsBalanced group (Assemble.expr e) := by
  induction e with
  | empty => exact skip
  | literal bytes => exact literal bytes
  | char set => exact emit fun _ _ _ inside => ⟨inside, rfl⟩
  | byte set => exact emit fun _ _ _ inside => ⟨inside, rfl⟩
  | look look => exact emit fun _ _ _ inside => ⟨inside, rfl⟩
  | group index body ih => exact ih.captured index
  | «then» a b first second => exact second.bind first
  | either a b first second => exact first.either second
  | «repeat» body min max greedy ih => exact ih.repetition body.takesInput min max greedy

end IsBalanced

end Assembling

/-- In the program of an expression a thread begins and ends outside the group. -/
theorem exists_depth (group : Nat) (e : Expr) :
    ∃ depth, Labels group (fun _ => False) (Program.ofExpr e).steps depth ∧
      depth (Program.ofExpr e).start = 0 := by
  have labels : Labels group (fun _ => False) #[] fun _ => 0 := nofun
  obtain ⟨start, steps, depth, own, grows, -, level⟩ :
      Builds group (fun _ => False) #[] (fun _ => 0) 0
        (do Assemble.expr e (← Assemble.emit .accept)) := by
    have accepts : Step.accept.Keeps group (fun _ => 0) 0 0 := rfl
    refine (Builds.emit labels accepts).bind fun stop steps depth grows inside level => ?_
    rw [← level]
    exact IsBalanced.expr e _ steps depth stop grows.labels inside
  refine ⟨depth, ?_, ?_⟩
  · rw [Program.ofExpr, own]
    exact grows.labels
  · rw [Program.ofExpr, own]
    exact level

/-! ## Marks -/

/-- The places of the last marks for a beginning and for an end of the group, in their order if the
thread is outside the group. -/
def Thread.IsClosed (group : Nat) (depth : Nat → Nat) (t : Thread) : Prop :=
  depth t.step = 0 → ∀ first, t.marks.lookup (2 * group) = some first →
    ∃ last, t.marks.lookup (2 * group + 1) = some last ∧ first ≤ last

theorem mem_of_lookup {marks : Marks} {slot place : Nat}
    (found : marks.lookup slot = some place) : (slot, place) ∈ marks := by
  obtain ⟨front, back, rfl, -⟩ := List.lookup_eq_some_iff.mp found
  exact List.mem_append_right front List.mem_cons_self

theorem lookup_cons_of_ne {marks : Marks} {slot slot' place : Nat} (other : slot ≠ slot') :
    List.lookup slot ((slot', place) :: marks) = marks.lookup slot := by
  rw [List.lookup_cons, beq_eq_false_iff_ne.mpr other]

variable {depth : Nat → Nat} {h : Haystack} {t u : Thread} {step : Step} {start size count : Nat}

theorem Thread.IsClosed.goesOn (own : t.IsClosed group depth) (inside : t.IsFrom start size)
    (keeps : step.Keeps group depth count (depth t.step)) (goes : GoesOn h t step u) :
    u.IsClosed group depth := by
  cases goes with
  | char read => exact fun outside => own (keeps.2 ▸ outside)
  | byte read => exact fun outside => own (keeps.2 ▸ outside)
  | look => exact fun outside => own (keeps.2 ▸ outside)
  | first => exact fun outside => own (keeps.1.2 ▸ outside)
  | second => exact fun outside => own (keeps.2.2 ▸ outside)
  | @mark slot next =>
      obtain ⟨-, level⟩ := keeps
      intro outside first found
      have zero : depth next = 0 := outside
      rw [zero] at level
      dsimp only at found ⊢
      by_cases opens : slot = 2 * group
      · rw [if_pos opens] at level
        cases level
      · rw [lookup_cons_of_ne (Ne.symm opens)] at found
        by_cases closes : slot = 2 * group + 1
        · refine ⟨t.place, by rw [closes, List.lookup_cons_self], ?_⟩
          exact (inside.marked _ (mem_of_lookup found)).2
        · rw [if_neg opens, if_neg closes] at level
          rw [lookup_cons_of_ne (Ne.symm closes)]
          exact own level.symm first found

variable {bytes : Bytes} {m : Match} {e : Expr}

/-- The groups of a match lie inside it, and end where they begin or behind that. -/
theorem span?_inside (found : searchAt (.ofExpr e) (.ofBytes bytes) start = some m)
    {span : Nat × Nat} (own : m.span? group = some span) :
    m.start ≤ span.1 ∧ span.1 ≤ span.2 ∧ span.2 ≤ m.stop := by
  have lies := isFrom_of_searchAt found
  rw [Match.span?] at own
  split at own
  · cases own
    exact ⟨le_rfl, lies.ordered, le_rfl⟩
  · split at own
    · next first last begins ends =>
        cases own
        refine ⟨(lies.marked _ (mem_of_lookup begins)).1, ?_,
          (lies.marked _ (mem_of_lookup ends)).2⟩
        obtain ⟨⟨tried, tried', t, arrived, -, marks⟩, -, before⟩ := isRun_of_searchAt found
        obtain ⟨depth, labels, outside⟩ := exists_depth group e
        rw [Haystack.size_ofBytes] at before
        have closed : Thread.IsClosed group depth ⟨(Program.ofExpr e).start, m.start, []⟩ :=
          fun _ _ none => nomatch none
        obtain ⟨⟨-, ended⟩, accepts⟩ := run_invariant
          (fun t => t.IsFrom m.start bytes.length ∧ t.IsClosed group depth)
          (fun t u s found held goes => ⟨held.1.goesOn goes,
            held.2.goesOn held.1 (labels t.step s found id) goes⟩)
          (List.forall_mem_singleton.mpr ⟨.initial before _, closed⟩) arrived
        rw [marks] at begins ends
        obtain ⟨last', ends', le⟩ := ended (labels t.step .accept accepts id) first begins
        obtain rfl : last' = last := Option.some.inj (ends'.symm.trans ends)
        exact le
    · cases own

end Harvest.Regex
