import Parley.Proofs.Session.Run

/-!
# The life of a pending result

`Session.Tracks` says where a pending result stands after what has happened since it was made: it is
gone once it was dropped, spent once it has handed out its outcome, and waits otherwise, on the cell
of its settler if it has one. Every step keeps this (`Tracks.step`), and it decides what an attempt
on the result is answered (`Tracks.answer`).
-/

namespace Parley

/-- What an attempt on a pending result is answered: one that is gone is not known, one that has
handed out its outcome is spent, and any other gives what it has to offer. -/
def Response.ofAttempt (dropped handedOut : Bool) (offer : Option (Outcome Answer)) : Response :=
  if dropped then .noSuchHandle
  else if handedOut then .outcome (.error .abandoned)
  else
    match offer with
    | some o => .outcome o
    | none => .notYet

theorem Response.ofAttempt_eq_notYet {dropped handedOut : Bool} {offer : Option (Outcome Answer)} :
    Response.ofAttempt dropped handedOut offer = .notYet ↔
      dropped = false ∧ handedOut = false ∧ offer = none := by
  cases dropped <;> cases handedOut <;> cases offer <;> simp [ofAttempt]

theorem Response.ofAttempt_eq_outcome {dropped handedOut : Bool} {offer : Option (Outcome Answer)}
    {o : Outcome Answer} :
    Response.ofAttempt dropped handedOut offer = .outcome o ↔
      dropped = false ∧ if handedOut then o = .error .abandoned else offer = some o := by
  cases dropped <;> cases handedOut <;> cases offer <;> simp [ofAttempt, eq_comm]

namespace Session

open History

/-- What a pending result has to offer at present. -/
def offer (s : Session) (t : Ticket) : Option (Outcome Answer) :=
  t.offer (InFlight.advance s.deferredSettlement)

/-! ### Answers -/

theorem step_take (s : Session) (h : Nat) :
    (s.step (.take h)).1 =
      match (s.pending[h]?).join with
      | some t => .ofAttempt false false (s.offer t)
      | none => .noSuchHandle := by
  simp only [step, attempt]
  rcases s.pending[h]? with - | - | t
  · rfl
  · rfl
  · have hresult : (t.tryTake (InFlight.advance s.deferredSettlement)).result = s.offer t :=
      Pending.tryTake_result
    simp only [Option.join_some, hresult]
    cases s.offer t <;> rfl

/-- Both ways of asking come to the same, whatever the state. -/
theorem step_await (s : Session) (h : Nat) : s.step (.await h) = s.step (.take h) := by
  simp only [step, attempt]
  rcases s.pending[h]? with - | - | t
  · rfl
  · rfl
  · have hask : t.ask .await (InFlight.advance s.deferredSettlement) =
        t.tryTake (InFlight.advance s.deferredSettlement) := Pending.ask_eq_tryTake .await
    simp only [← hask, Pending.ask]
    cases (t.poll (InFlight.advance s.deferredSettlement)).result <;> rfl

/-- An attempt that is not answered changes nothing. -/
theorem step_take_of_notYet {s : Session} {h : Nat} (hs : (s.step (.take h)).1 = .notYet) :
    (s.step (.take h)).2.1 = s := by
  rw [step_take] at hs
  rw [step_eq]
  refine congrArg (fun pending => { s with pending }) (Slots.modify_of_fixed fun slot hslot => ?_)
  cases slot with
  | none => rfl
  | some t =>
    have ht : s.offer t = none := by
      rw [hslot] at hs
      cases ht : s.offer t with
      | none => rfl
      | some o => simp [ht, Response.ofAttempt] at hs
    rw [Option.map_some, Pending.tryTake_after_of_not_offer ht]

theorem drops_drop (s : Session) (h' h : Nat) :
    (Moment.mk s (.drop h')).drops h = (h' == h && (s.pending[h']?).join.isSome) := by
  simp only [Moment.drops, Moment.response, step, drop]
  rcases s.pending[h']? with - | - | t <;> simp

theorem handsOut_take (s : Session) (h' h : Nat) :
    (Moment.mk s (.take h')).handsOut h =
      (h' == h && ((s.pending[h']?).join.bind s.offer).isSome) := by
  simp only [Moment.handsOut, Moment.response, step_take]
  rcases s.pending[h']? with - | - | t
  · simp
  · simp
  · cases ht : s.offer t <;> simp [ht, Response.ofAttempt]

/-- An attempt that does not hand out the outcome of a result leaves it as it is. -/
theorem pending_take_of_not_handsOut {s : Session} {h' h : Nat}
    (hm : (Moment.mk s (.take h')).handsOut h = false) :
    (s.step (.take h')).2.1.pending[h]? = s.pending[h]? := by
  rw [pending_step]
  show (s.pending.modify h' _)[h]? = _
  by_cases hh : h' = h
  · subst hh
    rw [List.getElem?_modify_eq]
    rw [handsOut_take, beq_self_eq_true, Bool.true_and] at hm
    rcases hp : s.pending[h']? with - | - | t
    · rfl
    · rfl
    · have ht : s.offer t = none := by simpa [hp] using hm
      show some (some (t.tryTake (InFlight.advance s.deferredSettlement)).after) = _
      rw [Pending.tryTake_after_of_not_offer ht]
  · exact List.getElem?_modify_ne _ _ hh

/-- An attempt that hands out the outcome of a result spends it. -/
theorem pending_take_of_handsOut {s : Session} {h' h : Nat}
    (hm : (Moment.mk s (.take h')).handsOut h = true) :
    (∃ t o, s.pending[h]? = some (some t) ∧ s.offer t = some o) ∧
      (s.step (.take h')).2.1.pending[h]? = some (some .taken) := by
  rw [handsOut_take] at hm
  obtain ⟨hh, ho⟩ := Bool.and_eq_true_iff.mp hm
  obtain rfl := beq_iff_eq.mp hh
  obtain ⟨o, ho⟩ := Option.isSome_iff_exists.mp ho
  obtain ⟨t, hp, ht⟩ := Option.bind_eq_some_iff.mp ho
  rw [Option.join_eq_some_iff] at hp
  refine ⟨⟨t, o, hp, ht⟩, ?_⟩
  rw [pending_step]
  show (s.pending.modify h' _)[h']? = _
  rw [List.getElem?_modify_eq, hp]
  show some (some (t.tryTake (InFlight.advance s.deferredSettlement)).after) = _
  rw [Pending.tryTake_after_of_offer ht]

theorem handsOut_await (s : Session) (h' h : Nat) :
    (Moment.mk s (.await h')).handsOut h = (Moment.mk s (.take h')).handsOut h := by
  simp only [Moment.handsOut, Moment.response, step_await]
  cases (s.step (.take h')).1 <;> rfl

theorem fills_settle (s : Session) (g' g : Nat) (o : Outcome Answer) :
    (Moment.mk s (.settle g' o)).fills g =
      if g' = g ∧ (s.settlers[g']?).join.isSome then some (.full o) else none := by
  simp only [Moment.fills, Moment.response, step, useSettler]
  rcases s.settlers[g']? with - | - | h <;> simp

theorem fills_dropSettler (s : Session) (g' g : Nat) :
    (Moment.mk s (.dropSettler g')).fills g =
      if g' = g ∧ (s.settlers[g']?).join.isSome then some .closed else none := by
  simp only [Moment.fills, Moment.response, step, useSettler]
  rcases s.settlers[g']? with - | - | h <;> simp

/-- A settler that was used belongs to nothing, and the others to what they belonged to. -/
theorem owner_of_used {settlers : List (Option Nat)} {g g' h : Nat}
    (hg : (settlers.modify g' fun _ => none)[g]? = some (some h)) :
    settlers[g]? = some (some h) :=
  Slots.held_of_modify (fun _ hslot => by cases hslot) hg

/-! ### Standing of a pending result -/

/-- The pending result itself while it waits: on the cell of its settler, or as it was made. -/
def waiting (owner : Option Nat) (t : Ticket) (H : List Moment) : Ticket :=
  match owner with
  | some g => .channel (fate g H)
  | none => t

/-- How a pending result stands that was made as `t`, given its settler, if it has one, and what has
happened since. -/
structure Tracks (s : Session) (h : Nat) (owner : Option Nat) (t : Ticket) (H : List Moment) :
    Prop where
  slot : s.pending[h]? =
    some (if dropped h H then none
      else some (if handedOut h H then .taken else waiting owner t H))
  own : ∀ g, owner = some g → s.settlers[g]? = some (if used g H then none else some h)
  others : ∀ g, owner ≠ some g → s.settlers[g]? ≠ some (some h)
  /-- Nothing is handed out before the settler is used. -/
  early : ∀ g, owner = some g → used g H = false → handedOut h H = false

namespace Tracks

variable {s s' : Session} {h : Nat} {owner : Option Nat} {t : Ticket} {H : List Moment} {m : Moment}

theorem lt_length (hT : s.Tracks h owner t H) : h < s.pending.length := by
  obtain ⟨hlt, -⟩ := List.getElem?_eq_some_iff.mp hT.slot
  exact hlt

/-- A moment at which the settler of the result is not used. -/
theorem unfilled (hT : s.Tracks h owner t H)
    (hown : ∀ g, owner = some g → s'.settlers[g]? = s.settlers[g]?)
    (hothers : ∀ g : Nat, s'.settlers[g]? = some (some h) → s.settlers[g]? = some (some h))
    (hfills : ∀ g, owner = some g → used g H = false → m.fills g = none)
    (hslot : s'.pending[h]? =
      some (if dropped h H || m.drops h then none
        else some (if handedOut h H || m.handsOut h then .taken else waiting owner t H)))
    (hearly : m.handsOut h = true → ∀ g, owner = some g → used g H = true) :
    s'.Tracks h owner t (H ++ [m]) := by
  have hused : ∀ g, owner = some g → used g (H ++ [m]) = used g H := by
    intro g hg
    rw [used_append]
    cases hu : used g H with
    | true => rfl
    | false => rw [hfills g hg hu]; rfl
  have hwaiting : waiting owner t (H ++ [m]) = waiting owner t H := by
    cases owner with
    | none => rfl
    | some g =>
      rw [waiting, fate_append]
      cases hu : used g H with
      | true => rfl
      | false =>
        rw [hfills g rfl hu, waiting, fate_of_not_used hu]
        rfl
  refine ⟨?_, fun g hg => ?_, fun g hg h' => hT.others g hg (hothers g h'), fun g hg hu => ?_⟩
  · rw [hslot, dropped_append, handedOut_append, hwaiting]
  · rw [hown g hg, hT.own g hg, hused g hg]
  · rw [hused g hg] at hu
    rw [handedOut_append, hT.early g hg hu, Bool.false_or, Bool.eq_false_iff]
    intro hhands
    rw [hearly hhands g hg] at hu
    cases hu

/-- A moment that has nothing to do with the result. -/
theorem quiet (hT : s.Tracks h owner t H)
    (hown : ∀ g, owner = some g → s'.settlers[g]? = s.settlers[g]?)
    (hothers : ∀ g : Nat, s'.settlers[g]? = some (some h) → s.settlers[g]? = some (some h))
    (hfills : ∀ g, owner = some g → used g H = false → m.fills g = none)
    (hslot : s'.pending[h]? = s.pending[h]?) (hdrops : m.drops h = false)
    (hhands : m.handsOut h = false) : s'.Tracks h owner t (H ++ [m]) := by
  refine hT.unfilled hown hothers hfills ?_ ?_
  · rw [hslot, hT.slot, hdrops, hhands, Bool.or_false, Bool.or_false]
  · rw [hhands]
    exact nofun

/-- An attempt hands out what the result has to offer, once. -/
theorem take (hT : s.Tracks h owner t H) (h' : Nat) (hdrops : m.drops h = false)
    (hhands : m.handsOut h = (Moment.mk s (.take h')).handsOut h) (hfills : ∀ g, m.fills g = none) :
    (s.step (.take h')).2.1.Tracks h owner t (H ++ [m]) := by
  have hsettlers : (s.step (.take h')).2.1.settlers = s.settlers := settlers_step s _
  have hothers : ∀ g : Nat, (s.step (.take h')).2.1.settlers[g]? = some (some h) →
      s.settlers[g]? = some (some h) := fun g hg => by rwa [hsettlers] at hg
  cases hm : m.handsOut h with
  | false =>
    rw [hm] at hhands
    exact hT.quiet (fun g _ => by rw [hsettlers]) hothers (fun g _ _ => hfills g)
      (pending_take_of_not_handsOut hhands.symm) hdrops hm
  | true =>
    rw [hm] at hhands
    obtain ⟨⟨t', o, hp, ho⟩, hspent⟩ := pending_take_of_handsOut hhands.symm
    rw [hT.slot] at hp
    have hdropped : dropped h H = false := by
      cases hd : dropped h H with
      | false => rfl
      | true => rw [hd] at hp; cases hp
    refine hT.unfilled (fun g _ => by rw [hsettlers]) hothers (fun g _ _ => hfills g) ?_ ?_
    · rw [hspent, hdropped, hdrops, hm, Bool.or_true]
      rfl
    · -- the cell of a settler that has not been used has nothing to offer
      intro _ g hg
      cases hu : used g H with
      | true => rfl
      | false =>
        rw [hdropped, hT.early g hg hu, hg] at hp
        have hempty : t' = .channel (fate g H) := (Option.some.inj (Option.some.inj hp)).symm
        rw [hempty, fate_of_not_used hu] at ho
        cases ho

theorem drop (hT : s.Tracks h owner t H) (h' : Nat) :
    (s.step (.drop h')).2.1.Tracks h owner t (H ++ [⟨s, .drop h'⟩]) := by
  have hsettlers : (s.step (.drop h')).2.1.settlers = s.settlers := settlers_step s _
  refine hT.unfilled (fun g _ => by rw [hsettlers]) (fun g hg => by rwa [hsettlers] at hg)
    (fun g _ _ => rfl) ?_ nofun
  rw [pending_step, drops_drop]
  show (s.pending.modify h' _)[h]? = _
  by_cases hh : h' = h
  · subst hh
    rw [List.getElem?_modify_eq, hT.slot]
    cases dropped h' H <;> simp
  · rw [List.getElem?_modify_ne _ _ hh, hT.slot, beq_eq_false_iff_ne.mpr hh, Bool.false_and,
      Bool.or_false]
    simp [Moment.handsOut]

/-- A settler that has not been used fills the cell of its own pending result. -/
theorem use_own {g : Nat} (hT : s.Tracks h (some g) t H) (hu : used g H = false)
    {cell : Cell (Outcome Answer)} (hsettlers : s'.settlers = s.settlers.modify g fun _ => none)
    (hpending : s'.pending = s.filled g cell) (hfills : m.fills g = some cell)
    (hdrops : m.drops h = false) (hhands : m.handsOut h = false) :
    s'.Tracks h (some g) t (H ++ [m]) := by
  have hg : s.settlers[g]? = some (some h) := by
    rw [hT.own g rfl, hu]
    rfl
  have hused : used g (H ++ [m]) = true := by
    rw [used_append, hfills]
    exact Bool.or_true _
  refine ⟨?_, fun g' hg' => ?_, fun g' hg' => ?_, fun g' hg' hu' => ?_⟩
  · rw [hpending, filled, hg]
    show (s.pending.modify h _)[h]? = _
    rw [List.getElem?_modify_eq, hT.slot, dropped_append, handedOut_append, hdrops, hhands,
      hT.early g rfl hu, waiting, waiting, fate_append, hu, hfills]
    cases dropped h H <;> rfl
  · obtain rfl := Option.some.inj hg'
    rw [hsettlers, List.getElem?_modify_eq, hg, hused]
    rfl
  · rw [hsettlers, List.getElem?_modify_ne _ _ fun h => hg' (congrArg some h)]
    exact hT.others g' hg'
  · obtain rfl := Option.some.inj hg'
    rw [hused] at hu'
    cases hu'

/-- A settler of another result, or one that has been used, fills nothing that matters here. -/
theorem use_other (hT : s.Tracks h owner t H) {g : Nat}
    (howner : owner = some g → used g H = true) {cell : Cell (Outcome Answer)}
    (hsettlers : s'.settlers = s.settlers.modify g fun _ => none)
    (hpending : s'.pending = s.filled g cell) (hfills : ∀ g', g ≠ g' → m.fills g' = none)
    (hdrops : m.drops h = false) (hhands : m.handsOut h = false) :
    s'.Tracks h owner t (H ++ [m]) := by
  have hother : s.settlers[g]? ≠ some (some h) := by
    by_cases hg : owner = some g
    · rw [hT.own g hg, howner hg]
      exact nofun
    · exact hT.others g hg
  refine hT.quiet (fun g' hg' => ?_) (fun g' hg' => ?_) (fun g' hg' hu => ?_) ?_ hdrops hhands
  · rw [hsettlers]
    by_cases hgg : g = g'
    · subst hgg
      rw [List.getElem?_modify_eq, hT.own g hg', howner hg']
      rfl
    · exact List.getElem?_modify_ne _ _ hgg
  · rw [hsettlers] at hg'
    exact owner_of_used hg'
  · refine hfills g' ?_
    rintro rfl
    rw [howner hg'] at hu
    cases hu
  · rw [hpending, filled]
    split
    · rename_i id hid
      refine List.getElem?_modify_ne _ _ fun hh => hother ?_
      rw [← hh]
      exact Option.join_eq_some_iff.mp hid
    · rfl

/-- A settler fills the cell of its own pending result, once, and no other. -/
theorem use (hT : s.Tracks h owner t H) {g : Nat} {cell : Cell (Outcome Answer)}
    (hsettlers : s'.settlers = s.settlers.modify g fun _ => none)
    (hpending : s'.pending = s.filled g cell)
    (hfills : ∀ g', m.fills g' =
      if g = g' ∧ (s.settlers[g]?).join.isSome then some cell else none)
    (hdrops : m.drops h = false) (hhands : m.handsOut h = false) :
    s'.Tracks h owner t (H ++ [m]) := by
  by_cases howner : owner = some g ∧ used g H = false
  · obtain ⟨rfl, hu⟩ := howner
    refine hT.use_own hu hsettlers hpending ?_ hdrops hhands
    rw [hfills, hT.own g rfl, hu]
    exact if_pos ⟨rfl, rfl⟩
  · refine hT.use_other (fun hg => ?_) hsettlers hpending (fun g' hg' => ?_) hdrops hhands
    · cases hu : used g H with
      | true => rfl
      | false => exact absurd ⟨hg, hu⟩ howner
    · rw [hfills, if_neg fun h => hg' h.1]

/-- New results have nothing to do with one that is there. -/
theorem grow (hT : s.Tracks h owner t H) (hsettlers : s'.settlers = s.settlers)
    (hpending : s.pending <+: s'.pending) (hfills : ∀ g, m.fills g = none)
    (hdrops : m.drops h = false) (hhands : m.handsOut h = false) :
    s'.Tracks h owner t (H ++ [m]) := by
  refine hT.quiet (fun g _ => by rw [hsettlers]) (fun g hg => by rwa [hsettlers] at hg)
    (fun g _ _ => hfills g) ?_ hdrops hhands
  obtain ⟨ts, hts⟩ := hpending
  rw [← hts, List.getElem?_append_left hT.lt_length]

/-- Whatever is done, the result stands as its history says. -/
theorem step (hT : s.Tracks h owner t H) (st : Step) :
    (s.step st).2.1.Tracks h owner t (H ++ [⟨s, st⟩]) := by
  cases st with
  | take h' => exact hT.take h' rfl rfl fun _ => rfl
  | await h' =>
    rw [step_await]
    exact hT.take h' rfl (handsOut_await s h' h) fun _ => rfl
  | drop h' => exact hT.drop h'
  | settle g' o =>
    exact hT.use (settlers_step s _) (pending_step s _) (fills_settle s g' · o) rfl rfl
  | dropSettler g' =>
    exact hT.use (settlers_step s _) (pending_step s _) (fills_dropSettler s g') rfl rfl
  | channel =>
    have hsettlers : (s.step .channel).2.1.settlers = s.settlers ++ [some s.pending.length] := rfl
    refine hT.quiet (fun g hg => ?_) (fun g hg => ?_) (fun _ _ _ => rfl) ?_ rfl rfl
    · obtain ⟨hlt, -⟩ := List.getElem?_eq_some_iff.mp (hT.own g hg)
      rw [hsettlers, List.getElem?_append_left hlt]
    · rw [hsettlers] at hg
      rcases Slots.held_of_append hg with hg | ⟨-, rfl⟩
      · exact hg
      · exact absurd hT.lt_length (Nat.lt_irrefl _)
    · exact List.getElem?_append_left hT.lt_length
  | ask p q =>
    refine hT.grow (settlers_step s _) ?_ (fun _ => rfl) rfl rfl
    rw [pending_step, pendingAfter]
    split
    · exact List.prefix_append ..
    · exact List.prefix_rfl
  | ready o => exact hT.grow rfl (List.prefix_append ..) (fun _ => rfl) rfl rfl
  | ofReply o => exact hT.grow rfl (List.prefix_append ..) (fun _ => rfl) rfl rfl
  | _ =>
    refine hT.grow (settlers_step s _) ?_ (fun _ => rfl) rfl rfl
    rw [pending_step]
    exact List.prefix_rfl

/-- The history of a result goes on. -/
theorem onward (hT : s.Tracks h owner t H) (steps : List Step) :
    (s.after steps).Tracks h owner t (H ++ s.history steps) :=
  run_induction_from (motive := fun s H => s.Tracks h owner t H) hT
    (fun _ _ st hT => hT.step st) steps

theorem run (hT : s.Tracks h owner t []) (steps : List Step) :
    (s.after steps).Tracks h owner t (s.history steps) := hT.onward steps

/-- The standing of a result decides what an attempt on it is answered. -/
theorem answer (hT : s.Tracks h owner t H) :
    (s.step (.take h)).1 =
      .ofAttempt (dropped h H) (handedOut h H) (s.offer (waiting owner t H)) := by
  rw [step_take, hT.slot, Option.join_some]
  cases dropped h H with
  | true => rfl
  | false =>
    cases handedOut h H with
    | true => rfl
    | false => rfl

/-- A settler that has not been used tells whether its pending result was dropped. -/
theorem isAbandoned {g : Nat} (hT : s.Tracks h (some g) t H) :
    (s.step (.isAbandoned g)).1 =
      if used g H then .noSuchHandle else .abandoned (dropped h H) := by
  show s.isAbandoned g = _
  rw [Session.isAbandoned, hT.own g rfl]
  cases used g H with
  | true => rfl
  | false =>
    show Response.abandoned (s.pending[h]?).join.isNone = _
    rw [hT.slot]
    cases dropped h H <;> rfl

end Tracks

/-! ### New pending results -/

/-- The settlers of a session belong to pending results that were made. -/
def SettlersKnown (s : Session) : Prop :=
  ∀ g h : Nat, s.settlers[g]? = some (some h) → h < s.pending.length

theorem pending_length_le (s : Session) (st : Step) :
    s.pending.length ≤ (s.step st).2.1.pending.length := by
  rw [pending_step]
  cases st with
  | ask p q =>
    simp only [pendingAfter]
    split <;> simp
  | settle g o =>
    simp only [pendingAfter, filled]
    split <;> simp
  | dropSettler g =>
    simp only [pendingAfter, filled]
    split <;> simp
  | _ => simp [pendingAfter]

/-- A settler belongs to the pending result that it was made with, until it is used. -/
theorem owner_of_step {s : Session} {st : Step} {g h : Nat}
    (hg : (s.step st).2.1.settlers[g]? = some (some h)) :
    s.settlers[g]? = some (some h) ∨ st = .channel ∧ h = s.pending.length := by
  rw [settlers_step] at hg
  cases st with
  | channel => exact (Slots.held_of_append hg).imp_right fun ⟨_, hh⟩ => ⟨rfl, hh⟩
  | settle g' o => exact .inl (owner_of_used hg)
  | dropSettler g' => exact .inl (owner_of_used hg)
  | _ => exact .inl hg

theorem SettlersKnown.step {s : Session} (hs : s.SettlersKnown) (st : Step) :
    (s.step st).2.1.SettlersKnown := by
  intro g h hg
  rcases owner_of_step hg with hg | ⟨rfl, rfl⟩
  · exact Nat.lt_of_lt_of_le (hs g h hg) (s.pending_length_le st)
  · show s.pending.length < (s.pending ++ [_]).length
    simp

theorem settlersKnown_after (standing : Option Settlement) (steps : List Step) :
    ((new standing).after steps).SettlersKnown := by
  refine run_induction (motive := fun s _ => s.SettlersKnown) ?_ (fun _ _ st hs => hs.step st) steps
  intro g h hg
  have hnone : (new standing).settlers[g]? = none := List.getElem?_nil
  rw [hnone] at hg
  cases hg

/-- A result that is made without a settler. -/
theorem Tracks.of_made {s s' : Session} {t : Ticket} {H : List Moment} (hs : s.SettlersKnown)
    (hsettlers : s'.settlers = s.settlers) (hpending : s'.pending = s.pending ++ [some t])
    (hdropped : dropped s.pending.length H = false)
    (hhanded : handedOut s.pending.length H = false) : s'.Tracks s.pending.length none t H where
  slot := by
    rw [hpending, hdropped, hhanded, List.getElem?_concat_length]
    rfl
  own := nofun
  others g _ hg := by
    rw [hsettlers] at hg
    exact absurd (hs g _ hg) (Nat.lt_irrefl _)
  early := nofun

/-- A result that is made with a settler. -/
theorem Tracks.of_channel {s : Session} (hs : s.SettlersKnown) :
    (s.step .channel).2.1.Tracks s.pending.length (some s.settlers.length) (.channel .empty) [] where
  slot := by
    show (s.pending ++ [some (.channel .empty)])[s.pending.length]? = _
    rw [List.getElem?_concat_length]
    rfl
  own g hg := by
    obtain rfl := Option.some.inj hg
    show (s.settlers ++ [some s.pending.length])[s.settlers.length]? = _
    rw [List.getElem?_concat_length]
    rfl
  others g hne hg := by
    rcases Slots.held_of_append hg with hg | ⟨rfl, -⟩
    · exact Nat.lt_irrefl _ (hs g _ hg)
    · exact hne rfl
  early _ _ _ := rfl

end Session

end Parley
