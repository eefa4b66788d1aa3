import Mathlib.Data.List.Nodup
import Parley.Proofs.Pending
import Parley.Proofs.Slots
import Parley.Session

/-!
# What a step does

`Session.step_eq` says once what every step makes of the parts of a session: its transport, its
proxies, its deferred replies, its pending results, and its settlers. A use of a handle that is not
there leaves them all as they are, which is why most parts are just modified at a position. No later
proof opens `Session.step` to find out what a step leaves alone.
-/

namespace Parley

namespace Session

variable {s : Session}

/-! ### Operations -/

theorem disable_eq (s : Session) (p : Nat) :
    (s.disable p).2.1 = { s with proxies := s.proxies.modify p fun px => px.disable.1 } := by
  unfold disable
  cases hp : s.proxies[p]? with
  | none => rw [Slots.modify_of_fixed fun _ h => absurd (hp.symm.trans h) nofun]
  | some px => rw [Slots.modify_of_getElem? hp]

/-- A deferred reply keeps the settlement that it has. -/
theorem settleDeferred_eq (s : Session) (d : Nat) (o : Settlement) :
    (s.settleDeferred d o).2 = { s with deferred := s.deferred.modify d (·.or (some o)) } := by
  unfold settleDeferred
  split
  · rename_i hd
    rw [Slots.modify_of_getElem? hd]
    rfl
  · rename_i hd
    rw [Slots.modify_of_fixed]
    intro r hr
    cases r with
    | none => exact absurd hr hd
    | some o' => rfl

theorem attempt_eq {β : Type} (s : Session) (h : Nat)
    (means : (InFlight → Option (Outcome Answer × List Log.Event)) → Ticket →
      Pending.Attempt InFlight Answer β) (answer : β → Response) :
    (s.attempt h means answer).2.1 =
      { s with
        pending := s.pending.modify h
          (Option.map fun t => (means (InFlight.advance s.deferredSettlement) t).after) } := by
  unfold attempt
  split
  · rename_i ht
    rw [Slots.modify_of_getElem? ht]
    rfl
  · rename_i ht
    rw [Slots.modify_of_vacant ht rfl]

theorem drop_eq (s : Session) (h : Nat) :
    (s.drop h).2 = { s with pending := s.pending.modify h fun _ => none } := by
  unfold drop
  split
  · rename_i ht
    rw [Slots.modify_of_getElem? ht]
  · rename_i ht
    rw [Slots.modify_of_vacant ht rfl]

/-- The pending results after the given settler has been used: its own one waits on the cell. -/
def filled (s : Session) (g : Nat) (cell : Cell (Outcome Answer)) : List (Option Ticket) :=
  match (s.settlers[g]?).join with
  | some h => s.pending.modify h (Option.map fun _ => .channel cell)
  | none => s.pending

theorem useSettler_eq (s : Session) (g : Nat) (cell : Cell (Outcome Answer)) :
    (s.useSettler g cell).2 =
      { s with settlers := s.settlers.modify g fun _ => none, pending := s.filled g cell } := by
  unfold useSettler filled
  rcases hg : s.settlers[g]? with - | - | h
  · rw [Slots.modify_of_fixed fun _ h => absurd (hg.symm.trans h) nofun]
    rfl
  · rw [Slots.modify_of_fixed fun _ h => Option.some.inj (hg.symm.trans h)]
    rfl
  · rw [Slots.modify_of_getElem? hg]
    show Session.mk _ _ _ _ _ = Session.mk _ _ _ _ _
    congr 1
    show _ = s.pending.modify h (Option.map fun _ => .channel cell)
    split
    · rename_i ht
      rw [Slots.modify_of_getElem? ht]
      rfl
    · rename_i ht
      rw [Slots.modify_of_vacant ht rfl]

/-- A query through a proxy makes a pending result and may change the transport. -/
theorem step_ask {p : Nat} {px : Proxy} (hp : s.proxies[p]? = some px) (q : Query) :
    s.step (.ask p q) =
      (.pending s.pending.length,
        { s with
          transport := (px.dispatch s.transport q).2.1
          pending := s.pending ++ [some (px.dispatch s.transport q).1] },
        (px.dispatch s.transport q).2.2) := by
  simp only [step, ask, hp]
  rfl

/-! ### All steps -/

def transportAfter (s : Session) : Step → Transport
  | .available now => { s.transport with available := now }
  | .queue o => { s.transport with queue := s.transport.queue ++ [.settled o] }
  | .queueNever => { s.transport with queue := s.transport.queue ++ [.never] }
  | .defer => { s.transport with queue := s.transport.queue ++ [.deferred s.deferred.length] }
  | .ask p q =>
    match s.proxies[p]? with
    | some px => (px.dispatch s.transport q).2.1
    | none => s.transport
  | _ => s.transport

def proxiesAfter (s : Session) : Step → List Proxy
  | .connect managerId closed => s.proxies ++ [{ settings := { managerId }, closed }]
  | .connectChecked settings closed =>
    match Proxy.checked settings closed with
    | .ok px => s.proxies ++ [px]
    | .error _ => s.proxies
  | .disable p => s.proxies.modify p fun px => px.disable.1
  | _ => s.proxies

def deferredAfter (s : Session) : Step → List (Option Settlement)
  | .defer => s.deferred ++ [none]
  | .settleDeferred d o => s.deferred.modify d (·.or (some o))
  | .dropDeferred d => s.deferred.modify d (·.or (some (.error .undefined)))
  | _ => s.deferred

def pendingAfter (s : Session) : Step → List (Option Ticket)
  | .ask p q =>
    match s.proxies[p]? with
    | some px => s.pending ++ [some (px.dispatch s.transport q).1]
    | none => s.pending
  | .channel => s.pending ++ [some (.channel .empty)]
  | .ready o => s.pending ++ [some (.ready o)]
  | .ofReply o => s.pending ++ [some (.reply (.done o))]
  | .take h | .await h =>
    s.pending.modify h
      (Option.map fun t => (t.tryTake (InFlight.advance s.deferredSettlement)).after)
  | .drop h => s.pending.modify h fun _ => none
  | .settle g o => s.filled g (.full o)
  | .dropSettler g => s.filled g .closed
  | _ => s.pending

def settlersAfter (s : Session) : Step → List (Option Nat)
  | .channel => s.settlers ++ [some s.pending.length]
  | .settle g _ | .dropSettler g => s.settlers.modify g fun _ => none
  | _ => s.settlers

/-- The parts of a session after a step. -/
theorem step_eq (s : Session) (st : Step) :
    (s.step st).2.1 =
      { transport := s.transportAfter st
        proxies := s.proxiesAfter st
        deferred := s.deferredAfter st
        pending := s.pendingAfter st
        settlers := s.settlersAfter st } := by
  cases st with
  | connectChecked settings closed =>
    simp only [step, proxiesAfter]
    cases Proxy.checked settings closed <;> rfl
  | status p =>
    simp only [step]
    split <;> rfl
  | ask p q =>
    simp only [step, ask, transportAfter, pendingAfter]
    cases s.proxies[p]? <;> rfl
  | disable p => exact s.disable_eq p
  | settleDeferred d o => exact s.settleDeferred_eq d o
  | dropDeferred d => exact s.settleDeferred_eq d (.error .undefined)
  | take h => exact s.attempt_eq h Pending.tryTake _
  | await h =>
    refine (s.attempt_eq h Pending.poll _).trans ?_
    have hpoll : ∀ t : Ticket, (t.poll (InFlight.advance s.deferredSettlement)).after =
        (t.tryTake (InFlight.advance s.deferredSettlement)).after := fun t =>
      congrArg Pending.Attempt.after (Pending.ask_eq_tryTake .await)
    simp only [hpoll]
    rfl
  | drop h => exact s.drop_eq h
  | settle g o => exact s.useSettler_eq g (.full o)
  | dropSettler g => exact s.useSettler_eq g .closed
  | _ => rfl

section Parts

variable (s : Session) (st : Step)

theorem transport_step : (s.step st).2.1.transport = s.transportAfter st := by rw [step_eq]

theorem proxies_step : (s.step st).2.1.proxies = s.proxiesAfter st := by rw [step_eq]

theorem deferred_step : (s.step st).2.1.deferred = s.deferredAfter st := by rw [step_eq]

theorem pending_step : (s.step st).2.1.pending = s.pendingAfter st := by rw [step_eq]

theorem settlers_step : (s.step st).2.1.settlers = s.settlersAfter st := by rw [step_eq]

end Parts

end Session

end Parley
