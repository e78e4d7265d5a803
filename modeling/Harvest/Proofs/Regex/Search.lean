import Mathlib
import Harvest.Regex.Search

/-!
# Where matches lie

A thread never goes back and never leaves the bytes, and what it marks are places that it has been
at.  So every match lies inside the bytes, and its groups lie inside the match.  The search goes on
where a match ends; matches follow one another without overlap, and taking them out of the bytes
leaves the others as they are, in their order.
-/

namespace Harvest

variable {bytes : Bytes}

/-! ## Characters inside the bytes -/

theorem Utf8.width_le_of_head {lead : UInt8} {rest : Bytes} {c : Char} {width : Nat}
    (read : head lead rest = .char c width) : width ≤ rest.length + 1 := by
  unfold head at read
  split at read <;> (repeat' split at read) <;> cases read <;> simp

namespace Regex

namespace Haystack

theorem size_ofBytes (bytes : Bytes) : (ofBytes bytes).size = bytes.length := List.size_toArray

theorem width_le_of_front {n width : Nat} (read : front bytes = some (n, width)) :
    width ≤ bytes.length := by
  cases bytes with
  | nil => cases read
  | cons b bs =>
      rw [front] at read
      split at read
      · next c size begun =>
          cases read
          exact Utf8.width_le_of_head begun
      · cases read

theorem getElem?_fronts (bytes : Bytes) (i : Nat) :
    (fronts bytes)[i]? = if i < bytes.length then some (front (bytes.drop i)) else none := by
  induction bytes generalizing i with
  | nil => rfl
  | cons b bs ih =>
      cases i with
      | zero => rfl
      | succ i => simp [fronts, ih]

/-- The characters of some bytes do not reach beyond them. -/
theorem add_width_le_of_charAt {place n width : Nat}
    (read : (ofBytes bytes).charAt place = some (n, width)) : place + width ≤ bytes.length := by
  rw [charAt, ofBytes, List.getElem?_toArray, getElem?_fronts] at read
  split at read
  · next inside =>
      have fits : width ≤ (bytes.drop place).length := width_le_of_front read
      rw [List.length_drop] at fits
      omega
  · cases read

theorem lt_of_byteAt {place n : Nat} (read : (ofBytes bytes).byteAt place = some n) :
    place < bytes.length := by
  rw [byteAt, ofBytes, Option.map_eq_some_iff] at read
  obtain ⟨b, found, -⟩ := read
  rw [List.getElem?_toArray] at found
  exact (List.getElem?_eq_some_iff.mp found).1

end Haystack

/-! ## Threads -/

namespace Thread

/-- Where a thread goes on over a step. -/
inductive GoesOn (h : Haystack) (t : Thread) : Step → Thread → Prop
  | char {set : Text.Charset} {next n width : Nat}
      (read : h.charAt t.place = some (n, width)) :
      GoesOn h t (.char set next) ⟨next, t.place + width, t.marks⟩
  | byte {set : Text.Charset} {next n : Nat} (read : h.byteAt t.place = some n) :
      GoesOn h t (.byte set next) ⟨next, t.place + 1, t.marks⟩
  | look {look : Look} {next : Nat} : GoesOn h t (.look look next) ⟨next, t.place, t.marks⟩
  | mark {slot next : Nat} :
      GoesOn h t (.mark slot next) ⟨next, t.place, (slot, t.place) :: t.marks⟩
  | first {first second : Nat} : GoesOn h t (.fork first second) ⟨first, t.place, t.marks⟩
  | second {first second : Nat} : GoesOn h t (.fork first second) ⟨second, t.place, t.marks⟩

theorem goesOn_of_mem_next {h : Haystack} {t u : Thread} {step : Step}
    (member : u ∈ t.next h step) : GoesOn h t step u := by
  cases step with
  | char set next =>
      rw [Thread.next] at member
      split at member
      · next n width read =>
          obtain ⟨-, same⟩ := List.mem_ite_nil_right.mp member
          obtain rfl := List.mem_singleton.mp same
          exact .char read
      · cases member
  | byte set next =>
      rw [Thread.next] at member
      split at member
      · next n read =>
          obtain ⟨-, same⟩ := List.mem_ite_nil_right.mp member
          obtain rfl := List.mem_singleton.mp same
          exact .byte read
      · cases member
  | look look next =>
      obtain ⟨-, same⟩ := List.mem_ite_nil_right.mp member
      obtain rfl := List.mem_singleton.mp same
      exact .look
  | mark slot next =>
      obtain rfl := List.mem_singleton.mp member
      exact .mark
  | fork first second =>
      rcases List.mem_pair.mp member with rfl | rfl
      · exact .first
      · exact .second
  | accept => cases member

/-- A thread that has come from `start`, over at most `size` bytes. -/
structure IsFrom (start size : Nat) (t : Thread) : Prop where
  behind : start ≤ t.place
  inside : t.place ≤ size
  marked : ∀ mark ∈ t.marks, start ≤ mark.2 ∧ mark.2 ≤ t.place

theorem IsFrom.initial {start size : Nat} (inside : start ≤ size) (step : Nat) :
    IsFrom start size ⟨step, start, []⟩ := ⟨le_rfl, inside, nofun⟩

variable {start : Nat} {t u : Thread} {step : Step}

/-- A thread that has gone on without a mark. -/
theorem IsFrom.advance (own : t.IsFrom start bytes.length) {place : Nat} (later : t.place ≤ place)
    (inside : place ≤ bytes.length) (next : Nat) :
    IsFrom start bytes.length ⟨next, place, t.marks⟩ where
  behind := own.behind.trans later
  inside := inside
  marked mark member := ⟨(own.marked mark member).1, (own.marked mark member).2.trans later⟩

theorem IsFrom.goesOn (own : t.IsFrom start bytes.length)
    (goes : GoesOn (.ofBytes bytes) t step u) : u.IsFrom start bytes.length := by
  cases goes with
  | char read => exact own.advance (Nat.le_add_right _ _) (Haystack.add_width_le_of_charAt read) _
  | byte read => exact own.advance (Nat.le_succ _) (Haystack.lt_of_byteAt read) _
  | look => exact own.advance le_rfl own.inside _
  | mark =>
      exact ⟨own.behind, own.inside,
        List.forall_mem_cons.mpr ⟨⟨own.behind, le_rfl⟩, own.marked⟩⟩
  | first => exact own.advance le_rfl own.inside _
  | second => exact own.advance le_rfl own.inside _

end Thread

variable {p : Program} {h : Haystack} {start : Nat} {m : Match}

/-- What holds of all threads at first, and of those that follow a thread if it holds of that one,
holds of the thread that arrives at the end of the program. -/
theorem run_invariant (Holds : Thread → Prop)
    (step : ∀ t u s, p.steps[t.step]? = some s → Holds t → t.GoesOn h s u → Holds u)
    {fuel : Nat} {tried tried' : Tried} {threads : List Thread} {t : Thread}
    (all : ∀ u ∈ threads, Holds u) (arrived : run p h fuel tried threads = (some t, tried')) :
    Holds t ∧ p.steps[t.step]? = some .accept := by
  induction fuel generalizing tried threads with
  | zero => cases arrived
  | succ fuel ih =>
      cases threads with
      | nil => cases arrived
      | cons u threads =>
          obtain ⟨own, others⟩ := List.forall_mem_cons.mp all
          rw [run] at arrived
          split at arrived
          · exact ih others arrived
          · split at arrived
            · exact ih others arrived
            · next stops =>
                cases arrived
                exact ⟨own, stops⟩
            · next s _ found =>
                refine ih (fun v member => ?_) arrived
                exact (List.mem_append.mp member).elim
                  (fun next => step u v s found own (Thread.goesOn_of_mem_next next)) (others v)

/-! ## Matches -/

/-- A match is what a thread arrives with that begins where the match does. -/
def Match.IsRun (p : Program) (h : Haystack) (m : Match) : Prop :=
  ∃ tried tried' t, run p h (enough p h) tried [⟨p.start, m.start, []⟩] = (some t, tried') ∧
    m.stop = t.place ∧ m.marks = t.marks

theorem isRun_of_searchFrom {count : Nat} {tried : Tried}
    (found : searchFrom p h start count tried = some m) :
    m.IsRun p h ∧ start ≤ m.start ∧ m.start < start + count := by
  induction count generalizing start tried with
  | zero => cases found
  | succ count ih =>
      rw [searchFrom] at found
      split at found
      · next t tried' arrived =>
          cases found
          exact ⟨⟨tried, tried', t, arrived, rfl, rfl⟩, le_rfl, by dsimp only; omega⟩
      · obtain ⟨own, behind, before⟩ := ih found
        exact ⟨own, by omega, by omega⟩

theorem isRun_of_searchAt (found : searchAt p h start = some m) :
    m.IsRun p h ∧ start ≤ m.start ∧ m.start ≤ h.size := by
  obtain ⟨own, behind, before⟩ := isRun_of_searchFrom found
  exact ⟨own, behind, by omega⟩

/-- A match that begins at `start` or later and lies, with its groups, inside the bytes. -/
structure Match.IsFrom (start size : Nat) (m : Match) : Prop where
  behind : start ≤ m.start
  ordered : m.start ≤ m.stop
  inside : m.stop ≤ size
  marked : ∀ mark ∈ m.marks, m.start ≤ mark.2 ∧ mark.2 ≤ m.stop

theorem Match.IsFrom.mono {early size : Nat} (own : m.IsFrom start size) (le : early ≤ start) :
    m.IsFrom early size :=
  { own with behind := le.trans own.behind }

theorem isFrom_of_searchAt (found : searchAt p (.ofBytes bytes) start = some m) :
    m.IsFrom start bytes.length := by
  obtain ⟨⟨tried, tried', t, arrived, stop, marks⟩, behind, before⟩ := isRun_of_searchAt found
  rw [Haystack.size_ofBytes] at before
  obtain ⟨own, -⟩ := run_invariant (Thread.IsFrom m.start bytes.length)
    (fun t u s _ own goes => own.goesOn goes)
    (List.forall_mem_singleton.mpr (.initial before _)) arrived
  exact ⟨behind, stop ▸ own.behind, stop ▸ own.inside, stop ▸ marks ▸ own.marked⟩

/-- Of the matches that are found one after the other, each is found from some place on. -/
theorem exists_searchAt {last : Option Nat} {fuel : Nat}
    (member : m ∈ matchesFrom p h last start fuel) : ∃ place, searchAt p h place = some m := by
  induction fuel generalizing last start with
  | zero => cases member
  | succ fuel ih =>
      rw [matchesFrom] at member
      split at member
      · cases member
      · next n found =>
          rcases List.mem_cons.mp member with rfl | later
          · split at found
            · cases found
            · next other here =>
                split at found
                · exact ⟨_, found⟩
                · cases found
                  exact ⟨_, here⟩
          · exact ih later

/-- Matches that follow one another, the first at `start` or later. -/
inductive Follow (size : Nat) : Nat → List Match → Prop
  | nil {start : Nat} : Follow size start []
  | cons {start : Nat} {m : Match} {ms : List Match} (first : m.IsFrom start size)
      (others : Follow size m.stop ms) : Follow size start (m :: ms)

theorem follow_matchesFrom (p : Program) (bytes : Bytes) (last : Option Nat) (start fuel : Nat) :
    Follow bytes.length start (matchesFrom p (.ofBytes bytes) last start fuel) := by
  induction fuel generalizing last start with
  | zero => exact .nil
  | succ fuel ih =>
      rw [matchesFrom]
      split
      · exact .nil
      · next m found =>
          refine .cons ?_ (ih _ _)
          split at found
          · cases found
          · next other here =>
              split at found
              · exact (isFrom_of_searchAt found).mono (Nat.le_succ start)
              · cases found
                exact isFrom_of_searchAt here

theorem follow_findAll (r : Regex) (bytes : Bytes) : Follow bytes.length 0 (r.findAll bytes) :=
  follow_matchesFrom r.program bytes none 0 _

namespace Follow

variable {size : Nat} {ms : List Match}

theorem isFrom (follow : Follow size start ms) : ∀ m ∈ ms, m.IsFrom start size := by
  induction follow with
  | nil => nofun
  | cons first others ih =>
      refine List.forall_mem_cons.mpr ⟨first, fun m member => ?_⟩
      have own := ih m member
      exact ⟨first.behind.trans (first.ordered.trans own.behind), own.ordered, own.inside,
        own.marked⟩

/-- Matches that follow one another do not overlap. -/
theorem pairwise (follow : Follow size start ms) : ms.Pairwise fun m n => m.stop ≤ n.start := by
  induction follow with
  | nil => exact .nil
  | cons first others ih => exact .cons (fun m member => (others.isFrom m member).behind) ih

end Follow

/-! ## What is left without the matches -/

/-- The bytes at the places that pass a test, the first of the bytes being at `start`. -/
def bytesAt (passes : Nat → Bool) (start : Nat) (bytes : Bytes) : Bytes :=
  ((bytes.zipIdx start).filter fun b => passes b.2).map Prod.fst

theorem bytesAt_sublist (passes : Nat → Bool) (start : Nat) (bytes : Bytes) :
    (bytesAt passes start bytes).Sublist bytes := by
  have kept : ((bytes.zipIdx start).filter fun b => passes b.2).Sublist (bytes.zipIdx start) :=
    List.filter_sublist
  have places := kept.map Prod.fst
  rwa [List.zipIdx_map_fst] at places

theorem bytesAt_append (passes : Nat → Bool) (start : Nat) (front back : Bytes) :
    bytesAt passes start (front ++ back) =
      bytesAt passes start front ++ bytesAt passes (start + front.length) back := by
  rw [bytesAt, List.zipIdx_append, List.filter_append, List.map_append]
  rfl

theorem bytesAt_congr {some other : Nat → Bool} (start : Nat)
    (same : ∀ i, start ≤ i → i < start + bytes.length → some i = other i) :
    bytesAt some start bytes = bytesAt other start bytes := by
  rw [bytesAt, List.filter_congr fun b member => ?_, bytesAt]
  exact same b.2 (List.le_snd_of_mem_zipIdx member) (List.snd_lt_add_of_mem_zipIdx member)

theorem bytesAt_all (start : Nat) (bytes : Bytes) :
    bytesAt (fun _ => true) start bytes = bytes := by
  rw [bytesAt, List.filter_true, List.zipIdx_map_fst]

theorem bytesAt_none (start : Nat) (bytes : Bytes) : bytesAt (fun _ => false) start bytes = [] := by
  rw [bytesAt, List.filter_false, List.map_nil]

/-- Whether a place is in none of some matches. -/
def isFree (ms : List Match) (place : Nat) : Bool :=
  ms.all fun m => place < m.start || m.stop ≤ place

theorem isFree_cons (m : Match) (ms : List Match) (place : Nat) :
    isFree (m :: ms) place = ((place < m.start || m.stop ≤ place) && isFree ms place) := rfl

theorem isFree_of_lt {size place : Nat} {ms : List Match} (follow : Follow size start ms)
    (before : place < start) : isFree ms place = true := by
  refine List.all_eq_true.mpr fun m member => ?_
  have behind := (follow.isFrom m member).behind
  rw [Bool.or_eq_true, decide_eq_true_eq]
  exact .inl (before.trans_le behind)

/-- Taking matches out leaves exactly the bytes outside them. -/
theorem outside_eq {size : Nat} {ms : List Match} (follow : Follow size start ms)
    (whole : start + bytes.length = size) :
    outside start bytes ms = bytesAt (isFree ms) start bytes := by
  induction follow generalizing bytes with
  | nil => exact (bytesAt_all _ bytes).symm
  | @cons start m ms first others ih =>
      obtain ⟨behind, ordered, inside, -⟩ := first
      obtain ⟨front, middle, back, rfl, place, place'⟩ : ∃ front middle back,
          bytes = front ++ (middle ++ back) ∧ start + front.length = m.start ∧
            m.start + middle.length = m.stop := by
        refine ⟨bytes.take (m.start - start),
          (bytes.drop (m.start - start)).take (m.stop - m.start),
          (bytes.drop (m.start - start)).drop (m.stop - m.start), ?_, ?_, ?_⟩
        · rw [List.take_append_drop, List.take_append_drop]
        · rw [List.length_take]
          omega
        · rw [List.length_take, List.length_drop]
          omega
      have before : bytesAt (isFree (m :: ms)) start front = front := by
        rw [bytesAt_congr start (fun i _ less => ?_), bytesAt_all]
        have early : i < m.start := by omega
        rw [isFree_cons, isFree_of_lt others (early.trans_le ordered), decide_eq_true early]
        rfl
      have within : bytesAt (isFree (m :: ms)) m.start middle = [] := by
        rw [bytesAt_congr m.start (fun i le less => ?_), bytesAt_none]
        have late : ¬ i < m.start := by omega
        have early : ¬ m.stop ≤ i := by omega
        rw [isFree_cons, decide_eq_false late, decide_eq_false early]
        rfl
      have after : bytesAt (isFree (m :: ms)) m.stop back = bytesAt (isFree ms) m.stop back := by
        refine bytesAt_congr m.stop fun i le _ => ?_
        rw [isFree_cons, decide_eq_true le, Bool.or_true, Bool.true_and]
      have start' : m.start - start = front.length := by omega
      have stop' : m.stop - start = (front ++ middle).length := by
        rw [List.length_append]
        omega
      have rest : m.stop + back.length = size := by
        rw [← whole, List.length_append, List.length_append]
        omega
      rw [outside, bytesAt_append, bytesAt_append, place, place', before, within, after,
        List.nil_append, start', List.take_left, stop', ← List.append_assoc, List.drop_left,
        ih rest]

/-- What is left without the matches is what is at the places in none of them. -/
theorem removeAll_eq (r : Regex) (bytes : Bytes) :
    r.removeAll bytes = bytesAt (isFree (r.findAll bytes)) 0 bytes :=
  outside_eq (follow_findAll r bytes) (Nat.zero_add _)

theorem removeAll_sublist (r : Regex) (bytes : Bytes) : (r.removeAll bytes).Sublist bytes := by
  rw [removeAll_eq]
  exact bytesAt_sublist _ 0 bytes

end Regex

end Harvest
