import MatchGuide.Proofs.Choice
import Mathlib.Data.List.Induction

/-! Visitors' sessions over a run of loads and choices. A session is what the last choice made of it
that named something and found it; nothing before that choice and nothing of others is left. -/
namespace MatchGuide.Sessions

/- What is recorded may be different at every choice. -/
inductive Event where
  | load (l : Load)
  | choose (visitor : Nat) (choice : Selection) (recorded : Fixture → Bool)

structure SessionState where
  board : Board
  sessions : Nat → Session

namespace SessionState

def initial : SessionState := ⟨.empty, fun _ => .fresh⟩

def step (p : SessionState) : Event → SessionState
  | .load l => { p with board := (p.board.apply l).1 }
  | .choose v choice recorded =>
    match choice.run (p.sessions v) p.board.snapshot recorded with
    | .ok s => { p with sessions := fun w => if w = v then s else p.sessions w }
    | .error _ => p

def run (events : List Event) : SessionState := events.foldl step initial

theorem runSnoc (events : List Event) (e : Event) : run (events ++ [e]) = (run events).step e := by
  simp [run]

end SessionState

def load? : Event → Option Load
  | .load l => some l
  | .choose .. => none

def shown (events : List Event) : Snapshot :=
  ((events.filterMap load?).foldl (fun b l => (b.apply l).1) Board.empty).snapshot

theorem runBoard (events : List Event) :
    (SessionState.run events).board =
      (events.filterMap load?).foldl (fun b l => (b.apply l).1) Board.empty := by
  induction events using List.reverseRecOn with
  | nil => rfl
  | append_singleton events e ih =>
    rw [SessionState.runSnoc, List.filterMap_append, List.foldl_append, ← ih]
    cases e with
    | load l => rfl
    | choose v choice recorded =>
      simp only [SessionState.step]
      split <;> rfl

theorem runShown (events : List Event) : (SessionState.run events).board.snapshot = shown events :=
  congrArg Board.snapshot (runBoard events)

def Counts (v : Nat) (before : List Event) : Event → Prop
  | .load _ => False
  | .choose w choice recorded => w = v ∧
    ∃ target item, choice.Names target ∧ Selection.Offers (shown before) recorded target item

/- What the session of a visitor has to be after some events: as if on a fresh one only the last
choice that counts had been made, on the snapshot of its time. -/
inductive Settled (v : Nat) : List Event → Session → Prop where
  | never {events} (idle : ∀ before e after, events = before ++ e :: after → ¬ Counts v before e) :
      Settled v events .fresh
  | last {before choice recorded after s} (counts : Counts v before (.choose v choice recorded))
      (played : choice.run .fresh (shown before) recorded = .ok s)
      (idle : ∀ mid e rest, after = mid ++ e :: rest →
        ¬ Counts v (before ++ .choose v choice recorded :: mid) e) :
      Settled v (before ++ .choose v choice recorded :: after) s

theorem snocSplit {α : Type} {events before after : List α} {e x : α}
    (split : events ++ [e] = before ++ x :: after) :
    (after = [] ∧ before = events ∧ x = e) ∨
      ∃ rest, after = rest ++ [e] ∧ events = before ++ x :: rest := by
  rcases List.eq_nil_or_concat after with rfl | ⟨rest, last, rfl⟩
  · obtain ⟨rfl, same⟩ := List.append_inj' split rfl
    exact .inl ⟨rfl, rfl, (List.cons.inj same).1.symm⟩
  · rw [List.concat_eq_append] at split ⊢
    rw [← List.cons_append, ← List.append_assoc] at split
    obtain ⟨rfl, same⟩ := List.append_inj' split rfl
    obtain rfl := (List.cons.inj same).1
    exact .inr ⟨rest, rfl, rfl⟩

variable {v : Nat} {events : List Event} {e : Event} {s : Session}

theorem settledKept (settled : Settled v events s) (idle : ¬ Counts v events e) :
    Settled v (events ++ [e]) s := by
  cases settled with
  | never before =>
    refine .never fun first x after split => ?_
    rcases snocSplit split with ⟨_, rfl, rfl⟩ | ⟨rest, _, same⟩
    · exact idle
    · exact before first x rest same
  | @last before choice recorded after _ counts played later =>
    rw [List.append_assoc, List.cons_append]
    refine .last counts played fun mid x rest split => ?_
    rcases snocSplit split with ⟨_, rfl, rfl⟩ | ⟨rest, _, same⟩
    · exact idle
    · exact later mid x rest same

theorem settledNew {choice : Selection} {recorded : Fixture → Bool}
    (counts : Counts v events (.choose v choice recorded))
    (played : choice.run .fresh (shown events) recorded = .ok s) :
    Settled v (events ++ [.choose v choice recorded]) s :=
  .last counts played fun mid e rest split => absurd split (by simp)

theorem idleStep (idle : ¬ Counts v events e) :
    ((SessionState.run events).step e).sessions v = (SessionState.run events).sessions v := by
  cases e with
  | load l => rfl
  | choose w choice recorded =>
    rw [SessionState.step, runShown]
    have ended :=
      Selection.runEnds (shown events) recorded choice ((SessionState.run events).sessions w)
    generalize choice.run ((SessionState.run events).sessions w) (shown events) recorded = outcome
      at ended ⊢
    cases ended with
    | idle =>
      by_cases own : v = w
      · simp [own]
      · simp [own]
    | refused => rfl
    | found names offers =>
      have own : v ≠ w := fun same => idle ⟨same.symm, _, _, names, offers⟩
      simp [own]

theorem countingStep {choice : Selection} {recorded : Fixture → Bool}
    (counts : Counts v events (.choose v choice recorded)) :
    choice.run .fresh (shown events) recorded =
      .ok (((SessionState.run events).step (.choose v choice recorded)).sessions v) := by
  obtain ⟨_, target, item, names, offers⟩ := counts
  rw [SessionState.step, runShown, Selection.runOffered names offers,
    Selection.runOffered names offers]
  simp

theorem runSettled (v : Nat) (events : List Event) :
    Settled v events ((SessionState.run events).sessions v) := by
  induction events using List.reverseRecOn with
  | nil => exact .never fun before e after split => absurd split (by simp)
  | append_singleton events e ih =>
    rw [SessionState.runSnoc]
    by_cases counts : Counts v events e
    · cases e with
      | load l => exact counts.elim
      | choose w choice recorded =>
        obtain rfl : w = v := counts.1
        exact settledNew counts (countingStep counts)
    · rw [idleStep counts]
      exact settledKept ih counts

structure Sound (s : Session) : Prop where
  visible : s.visible = true ↔ s.title.isSome
  playing : s.player.playing = true ↔ s.player.sources ≠ []

theorem itemSound (i : Item) : Sound i.session where
  visible := by simp [Item.session]
  playing := by simp [Item.session]

theorem settledSound (settled : Settled v events s) : Sound s := by
  cases settled with
  | never => exact ⟨by simp [Session.fresh], by simp [Session.fresh, Player.empty]⟩
  | last counts played =>
    obtain ⟨_, target, item, names, offers⟩ := counts
    rw [Selection.runOffered names offers] at played
    obtain rfl := Except.ok.inj played
    exact itemSound item

theorem sessionsSettled (events : List Event) (v : Nat) :
    Settled v events ((SessionState.run events).sessions v) ∧
    (∀ l : Load,
      ((SessionState.run events).step (.load l)).sessions v = (SessionState.run events).sessions v) ∧
    (∀ w choice recorded, w ≠ v →
      ((SessionState.run events).step (.choose w choice recorded)).sessions v =
        (SessionState.run events).sessions v) ∧
    (∀ (choice : Selection) recorded, (choice.Idle ∨ ∃ e,
        choice.run ((SessionState.run events).sessions v) (shown events) recorded = .error e) →
      ((SessionState.run events).step (.choose v choice recorded)).sessions v =
        (SessionState.run events).sessions v) ∧
    Sound ((SessionState.run events).sessions v) := by
  have settled := runSettled v events
  refine ⟨settled, fun l => rfl, fun w choice recorded other => ?_, fun choice recorded fails => ?_,
    settledSound settled⟩
  · exact idleStep fun counts => other counts.1
  · refine idleStep fun ⟨_, target, item, names, offers⟩ => ?_
    rcases fails with idle | ⟨e, failed⟩
    · exact Selection.idleNames.mp idle target names
    · rw [Selection.runOffered names offers] at failed
      contradiction

end MatchGuide.Sessions
