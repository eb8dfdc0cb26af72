import MatchGuide.Server.Basic

/-! Loads of one page that overlap. They are numbered as they start and handed to the page as they
end, in any order; one that never ends is never handed over. Nothing is said about how long a load
takes or whether it ends. -/
namespace MatchGuide.Loading

inductive Half where
  | fixtures
  | streams
  deriving DecidableEq, Repr

namespace Half

def Data : Half → Type
  | fixtures => Leagues
  | streams => List Stream

def shown : (half : Half) → Snapshot → half.Data
  | fixtures, s => s.leagues
  | streams, s => s.streams

def read? : (half : Half) → Reads → Option half.Data
  | fixtures, r => r.fixtures.toOption
  | streams, r => r.streams.toOption

def replaced : Half → LoadReport → Bool
  | fixtures, r => r.fixturesReplaced
  | streams, r => r.streamsReplaced

theorem shownReplace (half : Half) (s : Snapshot) (r : Reads) :
    half.shown (s.replace r).1 = (half.read? r).getD (half.shown s) := by
  obtain ⟨f, t⟩ := r
  cases half with
  | fixtures => cases f <;> rfl
  | streams => cases t <;> rfl

theorem replacedReplace (half : Half) (s : Snapshot) (r : Reads) :
    half.replaced (s.replace r).2 = (half.read? r).isSome := by
  obtain ⟨f, t⟩ := r
  cases half with
  | fixtures => cases f <;> rfl
  | streams => cases t <;> rfl

theorem snapshotEq {s t : Snapshot} (same : ∀ half : Half, half.shown s = half.shown t) : s = t := by
  obtain ⟨leagues, streams⟩ := s
  have left : leagues = t.leagues := same fixtures
  have right : streams = t.streams := same Half.streams
  rw [left, right]

end Half

inductive Event where
  | start
  | finish (l : Load)

/- The page with its loads. `origin` is what the reports tell of each half: the number of the load
that replaced it last, zero before the first. -/
structure LoadState where
  board : Board
  started : Nat
  underway : List Nat
  applied : List Load
  origin : Half → Nat

namespace LoadState

def initial : LoadState := ⟨.empty, 0, [], [], fun _ => 0⟩

def start (p : LoadState) : LoadState :=
  { p with started := p.started + 1, underway := (p.started + 1) :: p.underway }

def handOver (p : LoadState) (l : Load) : LoadState :=
  let left := p.underway.filter (· ≠ l.number)
  match p.board.apply l with
  | (board, none) => { p with board, underway := left }
  | (board, some report) =>
    { p with board, underway := left, applied := p.applied ++ [l]
             origin := fun half => if half.replaced report then l.number else p.origin half }

/- Each load is handed over at most once, so the end of a load that is not under way is no event of
the page. -/
def step (p : LoadState) : Event → LoadState
  | .start => p.start
  | .finish l => if l.number ∈ p.underway then p.handOver l else p

def run (events : List Event) : LoadState := events.foldl step initial

theorem runAppend (events more : List Event) : run (events ++ more) = more.foldl step (run events) :=
  List.foldl_append

theorem requestLoad (p : LoadState) (r : Reads) :
    let s := (⟨p.board, p.started⟩ : Server.State).load r
    let e := [Event.start, .finish ⟨p.started + 1, r⟩].foldl step p
    s = ⟨e.board, e.started⟩ := by
  simp only [List.foldl_cons, List.foldl_nil, step, start, List.mem_cons, true_or, if_true, handOver]
  unfold Server.State.load
  split <;> simp_all

theorem applyOld {b : Board} {l : Load} (old : l.number ≤ b.applied) : b.apply l = (b, none) :=
  if_pos old

theorem applyNew {b : Board} {l : Load} (new : b.applied < l.number) :
    b.apply l =
      (⟨(b.snapshot.replace l.reads).1, l.number⟩, some (b.snapshot.replace l.reads).2) :=
  if_neg (Nat.not_le.2 new)

theorem handOverOld {p : LoadState} {l : Load} (old : l.number ≤ p.board.applied) :
    p.handOver l = { p with underway := p.underway.filter (· ≠ l.number) } := by
  simp only [handOver, applyOld old]

theorem handOverNew {p : LoadState} {l : Load} (new : p.board.applied < l.number) :
    p.handOver l =
      { p with
        board := ⟨(p.board.snapshot.replace l.reads).1, l.number⟩
        underway := p.underway.filter (· ≠ l.number)
        applied := p.applied ++ [l]
        origin := fun half =>
          if (half.read? l.reads).isSome then l.number else p.origin half } := by
  simp only [handOver, applyNew new, Half.replacedReplace]

end LoadState

/- What a half has to be after some loads were applied, with the number of the load it comes from:
the data of the highest-numbered load that read the half, or empty where none did. -/
inductive Newest (half : Half) (loads : List Load) : Nat → half.Data → Prop where
  | unread (failed : ∀ k ∈ loads, half.read? k.reads = none) :
      Newest half loads 0 (half.shown .empty)
  | read {l data} (mem : l ∈ loads) (success : half.read? l.reads = some data)
      (highest : ∀ k ∈ loads, (half.read? k.reads).isSome → k.number ≤ l.number) :
      Newest half loads l.number data

theorem newestSuccess {half : Half} {loads : List Load} {l : Load} {data : half.Data}
    (above : ∀ k ∈ loads, k.number ≤ l.number) (success : half.read? l.reads = some data) :
    Newest half (loads ++ [l]) l.number data := by
  refine .read (List.mem_append_right _ List.mem_cons_self) success ?_
  intro k mem _
  rcases List.mem_append.mp mem with old | new
  · exact above k old
  · have same := List.mem_singleton.mp new
    exact Nat.le_of_eq (congrArg Load.number same)

theorem newestFailure {half loads n data} {l : Load} (h : Newest half loads n data)
    (failed : half.read? l.reads = none) : Newest half (loads ++ [l]) n data := by
  cases h with
  | unread before =>
    refine .unread fun k mem => ?_
    rcases List.mem_append.mp mem with old | new
    · exact before k old
    · rwa [List.mem_singleton.mp new]
  | read mem success highest =>
    refine .read (List.mem_append_left _ mem) success fun k mem read => ?_
    rcases List.mem_append.mp mem with old | new
    · exact highest k old read
    · rw [List.mem_singleton.mp new, failed] at read
      contradiction

theorem newestNumberBounded {half loads n data} {top : Nat} (h : Newest half loads n data)
    (above : ∀ k ∈ loads, k.number ≤ top) : n ≤ top := by
  cases h with
  | unread => exact Nat.zero_le _
  | read mem => exact above _ mem

structure Coherent (p : LoadState) : Prop where
  numbered : ∀ n ∈ p.underway, 0 < n ∧ n ≤ p.started
  bounded : p.board.applied ≤ p.started
  once : ∀ k ∈ p.applied, k.number ∉ p.underway
  ascending : p.applied.Pairwise (·.number < ·.number)
  top : ∀ k ∈ p.applied, k.number ≤ p.board.applied
  attained : 0 < p.board.applied → ∃ k ∈ p.applied, k.number = p.board.applied
  newest : ∀ half, Newest half p.applied (p.origin half) (half.shown p.board.snapshot)

theorem initialCoherent : Coherent .initial where
  numbered := nofun
  bounded := Nat.le_refl _
  once := nofun
  ascending := .nil
  top := nofun
  attained := nofun
  newest _ := .unread nofun

theorem startCoherent {p : LoadState} (h : Coherent p) : Coherent p.start where
  numbered n mem := by
    rcases List.mem_cons.mp mem with rfl | old
    · exact ⟨Nat.succ_pos _, Nat.le_refl _⟩
    · exact ⟨(h.numbered n old).1, Nat.le_succ_of_le (h.numbered n old).2⟩
  bounded := Nat.le_succ_of_le h.bounded
  once k mem under := by
    rcases List.mem_cons.mp under with new | old
    · have low := Nat.le_trans (h.top k mem) h.bounded
      omega
    · exact h.once k mem old
  ascending := h.ascending
  top := h.top
  attained := h.attained
  newest := h.newest

theorem oldCoherent {p : LoadState} {l : Load} (h : Coherent p) (old : l.number ≤ p.board.applied) :
    Coherent (p.handOver l) := by
  rw [LoadState.handOverOld old]
  exact { h with
    numbered := fun n mem => h.numbered n (List.mem_filter.mp mem).1
    once := fun k mem under => h.once k mem (List.mem_filter.mp under).1 }

theorem newCoherent {p : LoadState} {l : Load} (h : Coherent p) (waiting : l.number ∈ p.underway)
    (new : p.board.applied < l.number) : Coherent (p.handOver l) := by
  have above : ∀ k ∈ p.applied, k.number < l.number :=
    fun k mem => Nat.lt_of_le_of_lt (h.top k mem) new
  rw [LoadState.handOverNew new]
  refine {
    numbered := fun n mem => h.numbered n (List.mem_filter.mp mem).1
    bounded := (h.numbered _ waiting).2
    once := ?_, ascending := ?_, top := ?_, attained := ?_, newest := ?_ }
  · intro k mem under
    obtain ⟨under, other⟩ := List.mem_filter.mp under
    rcases List.mem_append.mp mem with before | same
    · exact h.once k before under
    · simp [List.mem_singleton.mp same] at other
  · refine List.pairwise_append.mpr ⟨h.ascending, List.pairwise_singleton _ _, ?_⟩
    intro k mem j same
    rw [List.mem_singleton.mp same]
    exact above k mem
  · intro k mem
    rcases List.mem_append.mp mem with before | same
    · exact Nat.le_of_lt (above k before)
    · exact Nat.le_of_eq (congrArg Load.number (List.mem_singleton.mp same))
  · exact fun _ => ⟨l, List.mem_append_right _ List.mem_cons_self, rfl⟩
  · intro half
    simp only [Half.shownReplace]
    -- The load is above all that were applied: once it has read a half, it is the newest of it.
    cases success : half.read? l.reads with
    | none => simpa using newestFailure (h.newest half) success
    | some data =>
      simpa using newestSuccess (fun k mem => Nat.le_of_lt (above k mem)) success

theorem stepCoherent {p : LoadState} (h : Coherent p) (e : Event) : Coherent (p.step e) := by
  cases e with
  | start => exact startCoherent h
  | finish l =>
    simp only [LoadState.step]
    split
    · rename_i waiting
      rcases Nat.lt_or_ge p.board.applied l.number with new | old
      · exact newCoherent h waiting new
      · exact oldCoherent h old
    · exact h

theorem stepsCoherent {p : LoadState} (h : Coherent p) (events : List Event) :
    Coherent (events.foldl LoadState.step p) := by
  induction events generalizing p with
  | nil => exact h
  | cons e events ih => exact ih (stepCoherent h e)

theorem runCoherent (events : List Event) : Coherent (LoadState.run events) :=
  stepsCoherent initialCoherent events

theorem oldIffOvertaken {p : LoadState} (h : Coherent p) {l : Load}
    (waiting : l.number ∈ p.underway) :
    l.number ≤ p.board.applied ↔ ∃ k ∈ p.applied, l.number < k.number := by
  constructor
  · intro old
    have positive := Nat.lt_of_lt_of_le (h.numbered _ waiting).1 old
    obtain ⟨k, mem, same⟩ := h.attained positive
    have different : k.number ≠ l.number := fun eq => h.once k mem (eq ▸ waiting)
    exact ⟨k, mem, by omega⟩
  · rintro ⟨k, mem, later⟩
    exact Nat.le_of_lt (Nat.lt_of_lt_of_le later (h.top k mem))

theorem stepOrigin {p : LoadState} (h : Coherent p) (e : Event) (half : Half) :
    p.origin half ≤ (p.step e).origin half := by
  have low := newestNumberBounded (h.newest half) h.top
  cases e with
  | start => exact Nat.le_refl _
  | finish l =>
    simp only [LoadState.step]
    split
    · rcases Nat.lt_or_ge p.board.applied l.number with new | old
      · rw [LoadState.handOverNew new]
        dsimp only
        split <;> omega
      · have same := congrArg (·.origin half) (LoadState.handOverOld old)
        exact Nat.le_of_eq same.symm
    · exact Nat.le_refl _

theorem stepsOrigin {p : LoadState} (h : Coherent p) (events : List Event) (half : Half) :
    p.origin half ≤ (events.foldl LoadState.step p).origin half := by
  induction events generalizing p with
  | nil => exact Nat.le_refl _
  | cons e events ih => exact Nat.le_trans (stepOrigin h e half) (ih (stepCoherent h e))

def Told (half : Half) (l : Load) (before after : Board) (report : LoadReport) : Prop :=
  (half.replaced report = true ∧ half.read? l.reads = some (half.shown after.snapshot)) ∨
  (half.replaced report = false ∧ half.read? l.reads = none ∧
    half.shown after.snapshot = half.shown before.snapshot)

theorem appliedTold {b : Board} {l : Load} (new : b.applied < l.number) (half : Half) :
    Told half l b (b.apply l).1 (b.snapshot.replace l.reads).2 := by
  simp only [Told, Board.apply, if_neg (Nat.not_le.2 new), Half.replacedReplace, Half.shownReplace]
  cases half.read? l.reads with
  | none => exact Or.inr ⟨rfl, rfl, rfl⟩
  | some data => exact Or.inl ⟨rfl, rfl⟩

theorem newestLoadsShown (events more : List Event) :
    let p := LoadState.run events
    (∀ l : Load, l.number ∈ p.underway →
      ((p.board.apply l).2 = none ↔ ∃ k ∈ p.applied, l.number < k.number) ∧
      ((p.board.apply l).2 = none → (p.board.apply l).1 = p.board) ∧
      (∀ report, (p.board.apply l).2 = some report →
        ∀ half, Told half l p.board (p.board.apply l).1 report)) ∧
    p.applied.Pairwise (·.number < ·.number) ∧
    (∀ half, Newest half p.applied (p.origin half) (half.shown p.board.snapshot)) ∧
    (∀ half, p.origin half ≤ (LoadState.run (events ++ more)).origin half) := by
  have h := runCoherent events
  refine ⟨?_, h.ascending, h.newest, ?_⟩
  · intro l waiting
    rw [← oldIffOvertaken h waiting]
    rcases Nat.lt_or_ge (LoadState.run events).board.applied l.number with new | old
    · refine ⟨?_, ?_, ?_⟩
      · simp only [LoadState.applyNew new, reduceCtorEq, false_iff]
        omega
      · simp [LoadState.applyNew new]
      · intro report told half
        simp only [LoadState.applyNew new, Option.some.injEq] at told
        subst report
        exact appliedTold new half
    · simp [LoadState.applyOld old, old]
  · intro half
    rw [LoadState.runAppend]
    exact stepsOrigin h more half

def streamsOnly : Reads := ⟨.error (.status "fixtures" 502), .ok [⟨"Final", .epoch, true, []⟩]⟩

def nothing : Reads := ⟨.error (.status "fixtures" 502), .error (.status "streams/all" 502)⟩

theorem overtakenLoadDropped :
    1 ∈ (LoadState.run [.start, .start, .finish ⟨2, streamsOnly⟩]).underway ∧
    ((LoadState.run [.start, .start, .finish ⟨2, streamsOnly⟩]).board.apply ⟨1, streamsOnly⟩).2 = none ∧
    (LoadState.run [.start, .start, .finish ⟨2, streamsOnly⟩]).origin .streams ≤
      (LoadState.run ([.start, .start, .finish ⟨2, streamsOnly⟩] ++
        [.finish ⟨1, streamsOnly⟩])).origin .streams := by
  have waiting : 1 ∈ (LoadState.run [.start, .start, .finish ⟨2, streamsOnly⟩]).underway := by decide
  obtain ⟨fate, _, _, rising⟩ :=
    newestLoadsShown [.start, .start, .finish ⟨2, streamsOnly⟩] [.finish ⟨1, streamsOnly⟩]
  have dropped := (fate ⟨1, streamsOnly⟩ waiting).1.mpr
    ⟨⟨2, streamsOnly⟩, List.mem_singleton.mpr rfl, by decide⟩
  exact ⟨waiting, dropped, rising .streams⟩

def LoadState.ShowsSince (p : LoadState) (half : Half) (n : Nat) : Prop :=
  ∃ k ∈ p.applied, n ≤ k.number ∧ half.read? k.reads = some (half.shown p.board.snapshot)

def LoadState.Overtaken (p : LoadState) (half : Half) (n : Nat) : Prop :=
  (∃ k ∈ p.applied, n < k.number) ∧
  ∀ k ∈ p.applied, n < k.number → half.read? k.reads = none

/- A load that read nothing still counts as applied, and the loads that began before it are too old
from then on. -/
theorem emptyLoadHidesRead :
    ¬ ∀ (events : List Event) (l : Load) (half : Half), l.number ∈ (LoadState.run events).underway →
      (half.read? l.reads).isSome →
        (LoadState.run (events ++ [.finish l])).ShowsSince half l.number := by
  intro readShown
  obtain ⟨k, mem, _, read⟩ :=
    readShown [.start, .start, .finish ⟨2, nothing⟩] ⟨1, streamsOnly⟩ .streams (by decide) rfl
  have same : k = ⟨2, nothing⟩ := List.mem_singleton.mp mem
  subst k
  contradiction

def startedAfter (n : Nat) : Event → Bool
  | .start => true
  | .finish k => n < k.number

structure Apart (n : Nat) (left right : LoadState) : Prop where
  snapshot : left.board.snapshot = right.board.snapshot
  started : left.started = right.started
  applied : left.board.applied = max right.board.applied n
  underway : ∀ m, n < m → (m ∈ left.underway ↔ m ∈ right.underway)

theorem startApart {n : Nat} {left right : LoadState} (h : Apart n left right) :
    Apart n left.start right.start where
  snapshot := h.snapshot
  started := congrArg (· + 1) h.started
  applied := h.applied
  underway m later := by simp only [LoadState.start, List.mem_cons, h.started, h.underway m later]

theorem handOverApart {n : Nat} {left right : LoadState} (h : Apart n left right) {k : Load}
    (later : n < k.number) : Apart n (left.handOver k) (right.handOver k) := by
  have waiting : ∀ m, n < m → (m ∈ left.underway.filter (· ≠ k.number) ↔
      m ∈ right.underway.filter (· ≠ k.number)) := fun m above => by
    simp only [List.mem_filter, h.underway m above]
  have counters := h.applied
  rcases Nat.lt_or_ge right.board.applied k.number with new | old
  · have newLeft : left.board.applied < k.number := by omega
    rw [LoadState.handOverNew new, LoadState.handOverNew newLeft]
    exact ⟨by simp only [h.snapshot], h.started, by dsimp only; omega, waiting⟩
  · have oldLeft : k.number ≤ left.board.applied := by omega
    rw [LoadState.handOverOld old, LoadState.handOverOld oldLeft]
    exact ⟨h.snapshot, h.started, counters, waiting⟩

theorem earlierApart {n : Nat} {left right : LoadState} (h : Apart n left right) {k : Load}
    (early : k.number ≤ n) : Apart n (left.step (.finish k)) right := by
  simp only [LoadState.step]
  split
  -- The left counter is at least `n`, so the load is dropped there.
  · have counters := h.applied
    rw [LoadState.handOverOld (by omega)]
    refine ⟨h.snapshot, h.started, counters, fun m above => ?_⟩
    have different : m ≠ k.number := by omega
    simp [List.mem_filter, h.underway m above, different]
  · exact h

theorem stepsApart {n : Nat} {left right : LoadState} (h : Apart n left right)
    (events : List Event) :
    Apart n (events.foldl LoadState.step left)
      ((events.filter (startedAfter n)).foldl LoadState.step right) := by
  induction events generalizing left right with
  | nil => exact h
  | cons e events ih =>
    cases e with
    | start => exact ih (startApart h)
    | finish k =>
      by_cases later : n < k.number
      · simp only [startedAfter, later, decide_true, List.filter_cons_of_pos, List.foldl_cons]
        refine ih ?_
        simp only [LoadState.step, h.underway k.number later]
        split
        · exact handOverApart h later
        · exact h
      · simp only [startedAfter, later, decide_false, Bool.false_eq_true, not_false_eq_true,
          List.filter_cons_of_neg, List.foldl_cons]
        exact ih (earlierApart h (Nat.le_of_not_lt later))

theorem emptyApart {p : LoadState} {l : Load} (waiting : l.number ∈ p.underway)
    (empty : ∀ half : Half, half.read? l.reads = none) :
    Apart l.number (p.step (.finish l)) p := by
  have unread : ∀ m, l.number < m → (m ∈ p.underway.filter (· ≠ l.number) ↔ m ∈ p.underway) :=
    fun m above => by simp [List.mem_filter, Nat.ne_of_gt above]
  simp only [LoadState.step, if_pos waiting]
  rcases Nat.lt_or_ge p.board.applied l.number with new | old
  · rw [LoadState.handOverNew new]
    refine ⟨Half.snapshotEq fun half => ?_, rfl, (Nat.max_eq_right (Nat.le_of_lt new)).symm, unread⟩
    simp only [Half.shownReplace, empty half, Option.getD_none]
  · rw [LoadState.handOverOld old]
    exact ⟨rfl, rfl, (Nat.max_eq_left old).symm, unread⟩

theorem shownSinceOld {p : LoadState} (h : Coherent p) {l : Load} {half : Half}
    (waiting : l.number ∈ p.underway) (old : l.number ≤ p.board.applied) :
    p.ShowsSince half l.number ↔ ¬ p.Overtaken half l.number := by
  have overtaken := (oldIffOvertaken h waiting).mp old
  constructor
  · rintro ⟨k, mem, since, read⟩ ⟨_, unread⟩
    have different : k.number ≠ l.number := fun eq => h.once k mem (eq ▸ waiting)
    rw [unread k mem (by omega)] at read
    contradiction
  · intro kept
    have newest := h.newest half
    generalize p.origin half = n at newest
    generalize shown : half.shown p.board.snapshot = data at newest
    cases newest with
    | unread failed => exact absurd ⟨overtaken, fun k mem _ => failed k mem⟩ kept
    | @read top _ mem success highest =>
      refine ⟨top, mem, ?_, shown ▸ success⟩
      refine Decidable.byContradiction fun early => kept ⟨overtaken, fun k inside later => ?_⟩
      refine Option.not_isSome_iff_eq_none.mp fun read => ?_
      have low := highest k inside read
      omega

theorem shownSinceNew {p : LoadState} (h : Coherent p) {l : Load} {half : Half}
    (new : p.board.applied < l.number) (read : (half.read? l.reads).isSome) :
    (p.handOver l).ShowsSince half l.number ∧ ¬ p.Overtaken half l.number := by
  constructor
  · refine ⟨l, ?_, Nat.le_refl _, ?_⟩
    · rw [LoadState.handOverNew new]
      exact List.mem_append_right _ List.mem_cons_self
    · obtain ⟨data, success⟩ := Option.isSome_iff_exists.mp read
      rw [LoadState.handOverNew new, Half.shownReplace, success]
      rfl
  · rintro ⟨⟨k, mem, later⟩, _⟩
    have low := h.top k mem
    omega

theorem readKeptUnlessOvertaken (events later : List Event) (l : Load)
    (waiting : l.number ∈ (LoadState.run events).underway) :
    let before := LoadState.run events
    let after := LoadState.run (events ++ [.finish l])
    (∀ half : Half, (half.read? l.reads).isSome →
      (after.ShowsSince half l.number ↔ ¬ before.Overtaken half l.number) ∧
      (before.Overtaken half l.number → after.board = before.board)) ∧
    ((∀ half : Half, half.read? l.reads = none) →
      after.board.snapshot = before.board.snapshot ∧
      (LoadState.run (events ++ .finish l :: later)).board.snapshot =
        (LoadState.run (events ++ later.filter (startedAfter l.number))).board.snapshot) := by
  have h := runCoherent events
  have ended : LoadState.run (events ++ [.finish l]) = (LoadState.run events).handOver l := by
    simp only [LoadState.runAppend, List.foldl_cons, List.foldl_nil, LoadState.step, if_pos waiting]
  refine ⟨fun half read => ?_, fun empty => ?_⟩
  · rw [ended]
    rcases Nat.lt_or_ge (LoadState.run events).board.applied l.number with new | old
    · obtain ⟨shown, clear⟩ := shownSinceNew h new read
      exact ⟨⟨fun _ => clear, fun _ => shown⟩, fun overtaken => absurd overtaken clear⟩
    · rw [LoadState.handOverOld old]
      exact ⟨shownSinceOld h waiting old, fun _ => rfl⟩
  · have apart := emptyApart waiting empty
    rw [LoadState.runAppend events, LoadState.runAppend events, LoadState.runAppend events]
    exact ⟨apart.snapshot, (stepsApart apart later).snapshot⟩

theorem latestReadKept :
    2 ∈ (LoadState.run [.start, .start]).underway ∧
    (LoadState.run ([.start, .start] ++ [.finish ⟨2, streamsOnly⟩])).ShowsSince .streams 2 ∧
    (LoadState.run
        ([.start, .start] ++ .finish ⟨2, nothing⟩ :: [.finish ⟨1, streamsOnly⟩])).board.snapshot =
      (LoadState.run ([.start, .start] ++ [])).board.snapshot := by
  have waiting : 2 ∈ (LoadState.run [.start, .start]).underway := by decide
  have kept := (readKeptUnlessOvertaken [.start, .start] [] ⟨2, streamsOnly⟩ waiting).1 .streams rfl
  have hidden := (readKeptUnlessOvertaken [.start, .start] [.finish ⟨1, streamsOnly⟩] ⟨2, nothing⟩
    waiting).2 fun half => by cases half <;> rfl
  refine ⟨waiting, kept.1.mpr ?_, hidden.2⟩
  rintro ⟨⟨k, mem, _⟩, _⟩
  exact nomatch mem

end MatchGuide.Loading
