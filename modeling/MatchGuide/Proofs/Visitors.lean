import MatchGuide.Server.Basic

/-! What one visitor's requests do to the answers that others get. The files change at will between
requests; the clock stands still and other servers answer as they do. -/
namespace MatchGuide.Server

namespace Route

theorem segmentsOfEmpty {path : List Char} : segmentsOf path = [""] ↔ path = [] := by
  constructor
  · intro one
    obtain ⟨part, split, empty⟩ := List.map_eq_singleton_iff.mp one
    have part : part = [] := String.ofList_injective empty
    have joined := Text.joinSplit '/' path
    rw [split, part] at joined
    exact joined.symm
  · rintro rfl
    rfl

theorem lastParameterPage {segment : String} {route : List Char → Route}
    (other : ∀ text, route text ≠ page) : lastParameter segment route ≠ some page := by
  unfold lastParameter
  split
  · simp
  · simp [other]

theorem ofSegmentsPage {segments : List String} :
    ofSegments? segments = some page ↔ segments = [""] := by
  constructor
  · intro found
    unfold ofSegments? at found
    split at found <;> try cases found
    · rfl
    · exact absurd found (lastParameterPage fun _ => nofun)
    · exact absurd found (lastParameterPage fun _ => nofun)
    · exact absurd found (lastParameterPage fun _ => nofun)
    · exact absurd found (lastParameterPage fun _ => nofun)
  · rintro rfl
    rfl

theorem ofPathPage {path : List Char} : ofPath? path = some page ↔ path = ['/'] := by
  unfold ofPath?
  split
  · simp [ofSegmentsPage, segmentsOfEmpty]
  · rename_i none
    constructor
    · nofun
    · rintro rfl
      exact absurd rfl (none [])

end Route

def Request.ReadsPage (req : Request) : Prop :=
  req.isRead = true ∧ req.path = ['/'] ∧ (choice? req).isSome

theorem loadsPage {req : Request} {route : Route} (at? : Route.ofPath? req.path = some route) :
    loads req route = true ↔ req.ReadsPage := by
  have same : route = .page ↔ req.path = ['/'] := by
    rw [← Route.ofPathPage, at?]
    simp
  simp only [loads, Bool.and_eq_true, beq_iff_eq, same, Request.ReadsPage]
  constructor
  · rintro ⟨⟨root, read⟩, choice⟩
    exact ⟨read, root, choice⟩
  · rintro ⟨read, root, choice⟩
    exact ⟨⟨root, read⟩, choice⟩

theorem readNotOptions {req : Request} (read : req.isRead = true) : req.method ≠ "OPTIONS" := by
  intro same
  simp [Request.isRead, same] at read

theorem pageState {req : Request} (c : Scene) (s : State) (page : req.ReadsPage) :
    (handle c s req).1 = s.load c.reads := by
  have route := Route.ofPathPage.mpr page.2.1
  have taken : Route.takes .page req = true := page.1
  have loaded := (loadsPage route).mpr page
  simp [handle, readNotOptions page.1, route, taken, loaded]

theorem otherState {req : Request} (c : Scene) (s : State) (other : ¬ req.ReadsPage) :
    (handle c s req).1 = s := by
  unfold handle
  split
  · rfl
  split
  · rfl
  · rename_i route found
    split
    · have idle : loads req route = false := by
        rw [← Bool.not_eq_true, loadsPage found]
        exact other
      simp [idle]
    · rfl

theorem readHandled {c : Scene} {s : State} {req : Request} {route : Route}
    (read : req.isRead = true) (found : Route.ofPath? req.path = some route)
    (gets : route.isPost = false) :
    let t := if loads req route then s.load c.reads else s
    handle c s req = (t, (answer c t.board.snapshot req route).sentFor req) := by
  have taken : route.takes req = true := by
    unfold Route.takes
    split
    · rfl
    · rfl
    · rw [gets, read]
      rfl
  simp [handle, readNotOptions read, found, taken]

theorem loadCounted {s : State} {r : Reads} (counted : s.board.applied ≤ s.started) :
    s.load r = ⟨⟨(s.board.snapshot.replace r).1, s.started + 1⟩, s.started + 1⟩ := by
  rw [State.load, Board.apply, if_neg (Nat.not_le.mpr (Nat.lt_succ_of_le counted))]

inductive Event where
  | request (req : Request)
  | files (change : Store → Store)

structure World where
  scene : Scene
  state : State

namespace World

def step (w : World) : Event → World × Option Response
  | .request req =>
    let (state, answer) := handle w.scene w.state req
    ({ w with state }, some answer)
  | .files change => ({ w with scene := { w.scene with store := change w.scene.store } }, none)

def after (w : World) (events : List Event) : World := events.foldl (fun w e => (w.step e).1) w

/- What each event is answered, one place for each; a change of files has no answer. -/
def answers (w : World) : List Event → List (Option Response)
  | [] => []
  | e :: events => (w.step e).2 :: (w.step e).1.answers events

theorem answersLength (w : World) (events : List Event) :
    (w.answers events).length = events.length := by
  induction events generalizing w with
  | nil => rfl
  | cons e events ih => simp [answers, ih]

theorem answersAppend (w : World) (before events : List Event) :
    w.answers (before ++ events) = w.answers before ++ (w.after before).answers events := by
  induction before generalizing w with
  | nil => rfl
  | cons e before ih => simp [answers, after, ih]

theorem otherStep {req : Request} (w : World) (other : ¬ req.ReadsPage) :
    (w.step (.request req)).1 = w := by
  simp only [step, otherState w.scene w.state other]

theorem pageStep {req : Request} (w : World) (page : req.ReadsPage) :
    (w.step (.request req)).1 = { w with state := w.state.load w.scene.reads } := by
  simp only [step, pageState w.scene w.state page]

end World

def without {α : Type} (gone : Nat → Bool) : List α → List α
  | [] => []
  | x :: xs =>
    if gone 0 then without (fun i => gone (i + 1)) xs
    else x :: without (fun i => gone (i + 1)) xs

theorem answersWithout (w : World) (events : List Event) (gone : Nat → Bool)
    (others : ∀ i e, events[i]? = some e → gone i = true →
      ∃ req, e = .request req ∧ ¬ req.ReadsPage) :
    w.answers (without gone events) = without gone (w.answers events) := by
  induction events generalizing w gone with
  | nil => rfl
  | cons e events ih =>
    have rest : ∀ i e, events[i]? = some e → gone (i + 1) = true →
        ∃ req, e = .request req ∧ ¬ req.ReadsPage := fun i => others (i + 1)
    simp only [World.answers, without]
    split
    · rename_i head
      obtain ⟨req, rfl, other⟩ := others 0 e rfl head
      rw [World.otherStep w other]
      exact ih w _ rest
    · rw [World.answers, ih _ _ rest]

theorem answersReplaced (w : World) (before events : List Event) {req other : Request}
    (page : req.ReadsPage) (also : other.ReadsPage) {i : Nat} (elsewhere : i ≠ before.length) :
    (w.answers (before ++ .request other :: events))[i]? =
      (w.answers (before ++ .request req :: events))[i]? := by
  rw [World.answersAppend, World.answersAppend]
  rcases Nat.lt_or_gt_of_ne elsewhere with early | late
  · have inside : i < (w.answers before).length := by rwa [World.answersLength]
    rw [List.getElem?_append_left inside, List.getElem?_append_left inside]
  -- After either request the world is the same: both count one load and apply the same reads.
  · have beyond : (w.answers before).length ≤ i := by rw [World.answersLength]; omega
    obtain ⟨j, place⟩ : ∃ j, i - (w.answers before).length = j + 1 :=
      ⟨i - before.length - 1, by rw [World.answersLength]; omega⟩
    rw [List.getElem?_append_right beyond, List.getElem?_append_right beyond, place]
    simp only [World.answers, List.getElem?_cons_succ, World.pageStep _ page, World.pageStep _ also]

theorem visitorsApart (w : World) :
    (∀ (events : List Event) (gone : Nat → Bool),
      (∀ i e, events[i]? = some e → gone i = true →
        ∃ req, e = .request req ∧ ¬ req.ReadsPage) →
      w.answers (without gone events) = without gone (w.answers events)) ∧
    (∀ (before events : List Event) (req other : Request), req.ReadsPage → other.ReadsPage →
      ∀ i, i ≠ before.length →
        (w.answers (before ++ .request other :: events))[i]? =
          (w.answers (before ++ .request req :: events))[i]?) :=
  ⟨answersWithout w, fun before events _ _ page also _ elsewhere =>
    answersReplaced w before events page also elsewhere⟩

def emptyWorld : World where
  scene := ⟨⟨⟨"fixtures.json", "streams.json"⟩, none, "static", .none, none⟩, .empty, Network.down,
    .epoch⟩
  state := .initial

theorem clickLeavesPlayer :
    emptyWorld.answers [.request ⟨"GET", "/"⟩, .request ⟨"GET", "/player"⟩] =
      without (· == 1) (emptyWorld.answers [.request ⟨"GET", "/"⟩,
        .request ⟨"POST", "/play/index/0"⟩, .request ⟨"GET", "/player"⟩]) ∧
    (emptyWorld.answers [.request ⟨"GET", "/?index=0"⟩, .request ⟨"GET", "/player"⟩])[1]? =
      (emptyWorld.answers [.request ⟨"GET", "/"⟩, .request ⟨"GET", "/player"⟩])[1]? := by
  obtain ⟨deleted, replaced⟩ := visitorsApart emptyWorld
  constructor
  · refine deleted [.request ⟨"GET", "/"⟩, .request ⟨"POST", "/play/index/0"⟩,
      .request ⟨"GET", "/player"⟩] (· == 1) fun i e found hit => ?_
    cases beq_iff_eq.mp hit
    cases Option.some.inj found
    exact ⟨_, rfl, fun page => nomatch page.1⟩
  · exact replaced [] [.request ⟨"GET", "/player"⟩] ⟨"GET", "/"⟩ ⟨"GET", "/?index=0"⟩
      ⟨rfl, rfl, rfl⟩ ⟨rfl, rfl, rfl⟩ 1 nofun

end MatchGuide.Server
