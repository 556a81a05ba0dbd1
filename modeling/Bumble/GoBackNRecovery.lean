import Bumble.GoBackN

/-!
# Recovery from lost frames

How a go-back-N net with no timeouts comes through lost frames.  A sender gives
up when a reject arrives and some frame of its window has had its share of
transmissions.  A reject has the whole window sent again, so the danger is a
second reject for the same gap, which arrives while the window still holds
frames that were sent twice.

`RejectedOnce` says that at most one reject is in flight in a direction, and
that it finds a window in which every frame has been sent once.  It is kept by
the moves in which no information frame arrives out of sequence while the
recovery is under way (`AllowedMove`).  A busy receiver rejects nothing, and a
sender whose window holds one frame is never rejected.
-/

namespace Bumble.GoBackN

/-! ## 1. Indices and rejects in flight -/

/-- The indices of the information frames of a list. -/
def infos (frames : List Frame) : List Nat := frames.filterMap Frame.index?

@[simp] theorem infos_nil : infos [] = [] := rfl

@[simp] theorem infos_append (frames more : List Frame) :
    infos (frames ++ more) = infos frames ++ infos more := List.filterMap_append

@[simp] theorem infos_supervision (kind : Supervision) (req : Nat) (frames : List Frame) :
    infos (.supervision kind req :: frames) = infos frames := rfl

@[simp] theorem infos_info (index req : Nat) (frames : List Frame) :
    infos (.info index req :: frames) = index :: infos frames := rfl

theorem mem_infos {frames : List Frame} {index : Nat} :
    index ∈ infos frames ↔ ∃ frame ∈ frames, frame.index? = some index :=
  List.mem_filterMap

theorem infos_burst (first count req : Nat) :
    infos (Peer.burst first count req) = List.range' first count := by
  rw [infos, Peer.burst, List.filterMap_map]
  change List.filterMap (fun offset => some (first + offset)) (List.range count) = _
  rw [List.filterMap_eq_map', List.range'_eq_map_range]

def Frame.isReject : Frame → Bool
  | .supervision .reject _ => true
  | _ => false

theorem isReject_burst {first count req : Nat} :
    ∀ frame ∈ Peer.burst first count req, frame.isReject = false := by
  intro frame hframe
  obtain ⟨offset, -, rfl⟩ := List.mem_map.mp hframe
  rfl

namespace Peer

theorem filling_isReject (peer : Peer) : ∀ frame ∈ peer.filling, frame.isReject = false := by
  unfold filling
  split
  · simp
  · exact isReject_burst

theorem resending_isReject (peer : Peer) : ∀ frame ∈ peer.resending, frame.isReject = false := by
  unfold resending
  split
  · simp
  · split
    · simp
    · exact isReject_burst

theorem fill_failed (peer : Peer) : peer.fill.failed = peer.failed := by
  unfold fill
  split <;> rfl

end Peer

/-- The rejects of a list. -/
def rejects (frames : List Frame) : Nat := frames.countP Frame.isReject

@[simp] theorem rejects_append (frames more : List Frame) :
    rejects (frames ++ more) = rejects frames + rejects more := List.countP_append

theorem rejects_cons (frame : Frame) (frames : List Frame) :
    rejects (frame :: frames) = rejects frames + if frame.isReject then 1 else 0 :=
  List.countP_cons

theorem rejects_eq_zero {frames : List Frame} :
    rejects frames = 0 ↔ ∀ frame ∈ frames, frame.isReject = false := by
  simp [rejects, List.countP_eq_zero]

/-! ## 2. What a direction keeps -/

/-- At most one reject is in flight, and no frame it asks for has been sent
    twice.  A window of one frame leaves at most the expected frame in flight. -/
structure RejectedOnce (sender receiver : Peer) (data acks : List Frame) : Prop where
  counts : ∀ count ∈ sender.transmissions, count = 1 ∨ count = 2
  atMostOne : rejects acks = 0 ∨ rejects acks = 1 ∧ 2 ∉ sender.transmissions
  alone : sender.window = 1 → rejects acks = 0 ∧ (infos data).Sublist [receiver.expected]

/-- The recovery is under way: a reject is in flight, or the sender has a frame
    in its window that it has sent a second time. -/
def Recovering (sender : Peer) (acks : List Frame) : Prop :=
  (∃ frame ∈ acks, frame.isReject = true) ∨ 2 ∈ sender.transmissions

/-! ## 3. Sending -/

/-- The sender may have put new frames into its window and on its queue. -/
structure Extends (peer next : Peer) (frames : List Frame) : Prop where
  acked_eq : next.acked = peer.acked
  window_eq : next.window = peer.window
  window_le : peer.transmissions.length ≤ peer.window →
    next.transmissions.length ≤ peer.window
  fresh : ∃ count, next.transmissions = peer.transmissions ++ List.replicate count 1 ∧
    infos frames = List.range' peer.sent count

namespace Extends

variable {peer next last : Peer} {frames more : List Frame}

theorem of_eq (hacked : next.acked = peer.acked) (hwindow : next.window = peer.window)
    (hsent : next.transmissions = peer.transmissions) (hframes : infos frames = []) :
    Extends peer next frames :=
  ⟨hacked, hwindow, fun hle => by rwa [hsent], 0, by simp [hsent], by simp [hframes]⟩

theorem trans (h : Extends peer next frames) (h' : Extends next last more) :
    Extends peer last (frames ++ more) := by
  obtain ⟨count, hsent, hframes⟩ := h.fresh
  obtain ⟨others, hmore, hothers⟩ := h'.fresh
  refine ⟨h'.acked_eq.trans h.acked_eq, h'.window_eq.trans h.window_eq, fun hle => ?_,
    count + others, ?_, ?_⟩
  · have hnext := h.window_le hle
    rw [← h.window_eq] at hnext ⊢
    exact h'.window_le hnext
  · rw [hmore, hsent, List.append_assoc, List.replicate_append_replicate]
  · have hfirst : next.sent = peer.sent + count := by
      simp [Peer.sent, h.acked_eq, hsent, Nat.add_assoc]
    rw [infos_append, hframes, hothers, hfirst, List.range'_append_1]

theorem fill (peer : Peer) : Extends peer peer.fill peer.filling := by
  have hwindow := (Peer.fill_emits peer).window_le
  unfold Peer.fill Peer.filling at *
  split
  · exact of_eq rfl rfl rfl rfl
  · next hfree =>
    rw [if_neg hfree] at hwindow
    exact ⟨rfl, rfl, hwindow, peer.room, rfl, infos_burst _ _ _⟩

end Extends

variable {sender sender' receiver receiver' : Peer} {data data' acks acks' frames : List Frame}
  {frame : Frame}

theorem Peer.accept_extends (peer : Peer) : ∃ frames,
    peer.accept.outbound = peer.outbound ++ frames ∧ Extends peer peer.accept frames ∧
      (∀ frame ∈ frames, frame.isReject = false) ∧ peer.accept.failed = peer.failed ∧
      peer.accept.expected = peer.expected + 1 := by
  obtain ⟨counted, hcounted⟩ : ∃ counted : Peer,
      counted = { peer with expected := peer.expected + 1 } := ⟨_, rfl⟩
  have hflag : Extends peer counted [] := by
    rw [hcounted]
    exact .of_eq rfl rfl rfl rfl
  have hfill := fill_emits counted
  have hfilled := hflag.trans (.fill counted)
  have houtbound : counted.fill.outbound = peer.outbound ++ counted.filling := by
    rw [hfill.outbound_eq, hcounted]
  have hexpected : counted.fill.expected = peer.expected + 1 := by
    rw [hfill.expected_eq, hcounted]
  have hfailed : counted.fill.failed = peer.failed := by
    rw [fill_failed, hcounted]
  have haccept : peer.accept = if counted.fill.outbound.length = counted.outbound.length then
      counted.fill.emit [.supervision .ready counted.fill.expected] else counted.fill := by
    rw [hcounted]
    rfl
  rw [haccept]
  split
  · refine ⟨counted.filling ++ [.supervision .ready counted.fill.expected], ?_, ?_, ?_, hfailed,
      hexpected⟩
    · simp only [emit, houtbound, List.append_assoc]
    · exact hfilled.trans (.of_eq rfl rfl rfl rfl)
    · intro frame hframe
      rcases List.mem_append.mp hframe with hold | hnew
      · exact filling_isReject counted frame hold
      · rw [List.mem_singleton.mp hnew]
        rfl
  · exact ⟨counted.filling, houtbound, hfilled, filling_isReject counted, hfailed, hexpected⟩

namespace RejectedOnce

theorem sublist (h : RejectedOnce sender receiver data acks) (hdata : data'.Sublist data)
    (hacks : acks'.Sublist acks) : RejectedOnce sender receiver data' acks' := by
  have hle : rejects acks' ≤ rejects acks := hacks.countP_le
  refine ⟨h.counts, ?_, fun hone => ?_⟩
  · rcases h.atMostOne with hnone | ⟨hone, honce⟩
    · exact .inl (by omega)
    · rcases Nat.eq_zero_or_pos (rejects acks') with hnone | hpos
      · exact .inl hnone
      · exact .inr ⟨by omega, honce⟩
  · obtain ⟨hnone, hinfos⟩ := h.alone hone
    exact ⟨by omega, (hdata.filterMap _).trans hinfos⟩

theorem extend (h : RejectedOnce sender receiver data acks)
    (hflow : Flow sender receiver data acks) (hext : Extends sender sender' frames) :
    RejectedOnce sender' receiver (data ++ frames) acks := by
  obtain ⟨count, htransmissions, hframes⟩ := hext.fresh
  refine ⟨?_, ?_, fun hone => ?_⟩
  · intro sent hsent
    rw [htransmissions, List.mem_append] at hsent
    exact hsent.elim (h.counts sent) fun hnew => .inl (List.eq_of_mem_replicate hnew)
  · rcases h.atMostOne with hnone | ⟨hone, honce⟩
    · exact .inl hnone
    · refine .inr ⟨hone, fun htwo => ?_⟩
      rw [htransmissions, List.mem_append] at htwo
      exact htwo.elim honce fun hnew => absurd (List.eq_of_mem_replicate hnew) (by decide)
  · obtain ⟨hnone, hinfos⟩ := h.alone (hext.window_eq.symm.trans hone)
    have hroom := hext.window_le hflow.window_le
    rw [← hext.window_eq, hone, htransmissions, List.length_append,
      List.length_replicate] at hroom
    refine ⟨hnone, ?_⟩
    rw [infos_append, hframes]
    cases count with
    | zero => simpa using hinfos
    | succ count =>
      -- the window was empty: the new frame is the expected one and is alone
      have hacked := hflow.acked_le
      have hexpected := hflow.expected_le
      obtain rfl : count = 0 := by omega
      have hsent : sender.sent = receiver.expected := by
        simp only [Peer.sent] at hexpected ⊢
        omega
      have hnothing : infos data = [] := by
        refine List.eq_nil_iff_forall_not_mem.mpr fun index hindex => ?_
        obtain ⟨frame, hframe, hsome⟩ := mem_infos.mp hindex
        have hlt := (hflow.index_mem frame hframe index hsome).1
        have heq := List.mem_singleton.mp (hinfos.subset hindex)
        omega
      rw [hnothing, hsent]
      exact List.Sublist.refl _

theorem reply (h : RejectedOnce sender receiver data acks)
    (hexpected : receiver'.expected = receiver.expected)
    (hframes : ∀ frame ∈ frames, frame.isReject = false) :
    RejectedOnce sender receiver' data (acks ++ frames) := by
  have hsame : rejects (acks ++ frames) = rejects acks := by
    rw [rejects_append, rejects_eq_zero.mpr hframes, Nat.add_zero]
  exact ⟨h.counts, hsame ▸ h.atMostOne, hsame ▸ hexpected ▸ h.alone⟩

/-! ## 4. Deliveries -/

theorem take {req : Nat}
    (h : RejectedOnce sender receiver (.info receiver.expected req :: data) acks) :
    RejectedOnce sender receiver' data acks := by
  refine ⟨h.counts, h.atMostOne, fun hone => ?_⟩
  obtain ⟨hnone, hinfos⟩ := h.alone hone
  have hempty := List.sublist_nil.mp (List.cons_sublist_cons.mp hinfos)
  exact ⟨hnone, hempty ▸ List.nil_sublist _⟩

/-- **A frame out of sequence** is answered with a reject, which must be the
    first of its recovery. -/
theorem reject {index req : Nat} (h : RejectedOnce sender receiver (.info index req :: data) acks)
    (hindex : index ≠ receiver.expected)
    (hcalm : sender.window = 1 ∨ ¬ Recovering sender acks) :
    RejectedOnce sender receiver' data (acks ++ [.supervision .reject receiver.expected]) := by
  have hwide : sender.window ≠ 1 := fun hone =>
    hindex (List.mem_singleton.mp ((h.alone hone).2.subset (List.mem_cons_self ..)))
  obtain ⟨hunrejected, honce⟩ := not_or.mp (hcalm.resolve_left hwide)
  have hnone : rejects acks = 0 := rejects_eq_zero.mpr fun frame hframe =>
    Bool.eq_false_iff.mpr fun hreject => hunrejected ⟨frame, hframe, hreject⟩
  refine ⟨h.counts, .inr ⟨?_, honce⟩, fun hone => absurd hone hwide⟩
  rw [rejects_append, hnone]
  rfl

theorem acknowledge (h : RejectedOnce sender receiver data (frame :: acks)) :
    RejectedOnce (sender.acknowledge frame.req) receiver data acks := by
  have hsub := h.sublist (List.Sublist.refl _) (List.sublist_cons_self frame acks)
  refine ⟨fun count hcount => hsub.counts count (List.mem_of_mem_drop hcount), ?_, hsub.alone⟩
  exact hsub.atMostOne.imp_right fun ⟨hone, honce⟩ =>
    ⟨hone, fun htwo => honce (List.mem_of_mem_drop htwo)⟩

/-- **The reject reaches the sender.**  Every frame of the window has been sent
    once, so no limit is reached, and the window goes out again. -/
theorem resend {req : Nat}
    (h : RejectedOnce sender receiver data (.supervision .reject req :: acks)) :
    let told := { sender.acknowledge req with remoteBusy := false }
    told.retransmit.failed = sender.failed ∧
      RejectedOnce told.retransmit receiver (data ++ told.resending) acks := by
  intro told
  have hcons : rejects (.supervision .reject req :: acks) = rejects acks + 1 := rejects_cons _ _
  have hwide : sender.window ≠ 1 := fun hone => by
    have hnone := (h.alone hone).1
    omega
  obtain ⟨hone, honce⟩ := h.atMostOne.resolve_left (by omega)
  have hones : ∀ count ∈ told.transmissions, count = 1 := by
    intro count hcount
    have hmem := List.mem_of_mem_drop hcount
    exact (h.counts count hmem).resolve_right fun htwo => honce (htwo ▸ hmem)
  have hunlimited : ¬ (told.limit ≠ 0 ∧
      told.transmissions.any (fun count => decide (told.limit ≤ count - 1)) = true) := by
    rintro ⟨hlimit, hany⟩
    obtain ⟨count, hcount, hreached⟩ := List.any_eq_true.mp hany
    rw [hones count hcount, decide_eq_true_eq] at hreached
    omega
  have hbusy : ¬ told.remoteBusy = true := Bool.false_ne_true
  simp only [Peer.retransmit, Peer.resending]
  rw [if_neg hbusy, if_neg hunlimited, if_neg hbusy, if_neg hunlimited]
  refine ⟨rfl, ?_, .inl (by omega), fun hone => absurd hone hwide⟩
  intro count hcount
  obtain ⟨before, hbefore, rfl⟩ := List.mem_map.mp hcount
  exact .inr (by rw [hones before hbefore])

end RejectedOnce

/-! ## 5. Both directions -/

structure Calm (net : Net Peer Frame) : Prop where
  safe : Safe net
  leftAlive : net.left.failed = false
  rightAlive : net.right.failed = false
  rightward : RejectedOnce net.left net.right
    (net.toRight ++ net.left.outbound) (net.toLeft ++ net.right.outbound)
  leftward : RejectedOnce net.right net.left
    (net.toLeft ++ net.right.outbound) (net.toRight ++ net.left.outbound)

/-- The moves of the left end under which losses are survived. -/
def AllowedMove (net : Net Peer Frame) : Move Input → Prop
  | .call .timeout => False
  | .call _ | .poll | .lose _ => True
  | .deliver => ∀ frame ∈ net.toLeft.head?, ∀ index, frame.index? = some index →
      net.right.window = 1 ∨ net.left.localBusy = true ∨ index = net.left.expected ∨
        ¬ Recovering net.right (net.toRight ++ net.left.outbound)

namespace Calm

variable {net : Net Peer Frame} {left : Peer}

theorem swap (h : Calm net) : Calm net.swap :=
  ⟨h.safe.swap, h.rightAlive, h.leftAlive, h.leftward, h.rightward⟩

theorem emits (h : Calm net) (hemits : Emits net.left left frames)
    (hext : Extends net.left left frames)
    (hframes : ∀ frame ∈ frames, frame.isReject = false)
    (hfailed : left.failed = net.left.failed) : Calm { net with left } where
  safe := h.safe.emits hemits
  leftAlive := hfailed.trans h.leftAlive
  rightAlive := h.rightAlive
  rightward := by
    have hprogress := h.rightward.extend h.safe.rightward hext
    simpa only [hemits.outbound_eq, List.append_assoc] using hprogress
  leftward := by
    have hprogress := h.leftward.reply hemits.expected_eq hframes
    simpa only [hemits.outbound_eq, List.append_assoc] using hprogress

theorem call (h : Calm net) {input : Input} (hallowed : AllowedMove net (.call input)) :
    Calm { net with left := net.left.call input } := by
  have halive : ¬ net.left.failed = true := by simp [h.leftAlive]
  unfold Peer.call
  rw [if_neg halive]
  cases input with
  | queue count =>
    have hqueued : Calm { net with left := { net.left with queued := net.left.queued + count } } :=
      { h with
        safe := h.safe.queue count
        rightward := { h.rightward with }
        leftward := { h.leftward with } }
    exact hqueued.emits (Peer.fill_emits _) (.fill _) (Peer.filling_isReject _) (Peer.fill_failed _)
  | busy value =>
    dsimp only
    split
    · exact h
    · have hflag : Emits net.left { net.left with localBusy := value } [] :=
        Peer.emits_of_eq rfl rfl rfl rfl rfl rfl
      refine h.emits (hflag.trans (Emits.supervision _ _)) (.of_eq rfl rfl rfl rfl) ?_ rfl
      intro frame hframe
      rw [List.nil_append, List.mem_singleton] at hframe
      rw [hframe]
      cases value <;> rfl
  | timeout => exact hallowed.elim
  | idle => exact h

theorem poll (h : Calm net) : Calm (net.stepLeft party .poll) := by
  have hsafe := h.safe.poll
  cases hout : net.left.outbound with
  | nil =>
    rw [Net.stepLeft_poll_none (by simp [party, Peer.poll, hout])]
    exact h
  | cons frame outbound =>
    have hpoll : party.poll net.left = some (frame, { net.left with outbound }) := by
      simp [party, Peer.poll, hout]
    rw [Net.stepLeft_poll_some hpoll] at hsafe ⊢
    have hright := h.rightward
    have hleft := h.leftward
    rw [hout] at hright hleft
    refine ⟨hsafe, h.leftAlive, h.rightAlive, ?_, ?_⟩
    · simpa only [List.append_assoc, List.singleton_append] using { hright with }
    · simpa only [List.append_assoc, List.singleton_append] using { hleft with }

theorem lose (h : Calm net) (index : Nat) : Calm (net.stepLeft party (.lose index)) := by
  have hsafe := h.safe.lose index
  simp only [Net.stepLeft] at hsafe ⊢
  split
  · next hlt =>
    rw [if_pos hlt] at hsafe
    have hgone : (net.toLeft.eraseIdx index ++ net.right.outbound).Sublist
        (net.toLeft ++ net.right.outbound) :=
      (List.eraseIdx_sublist _ _).append (List.Sublist.refl _)
    exact ⟨hsafe, h.leftAlive, h.rightAlive, h.rightward.sublist (List.Sublist.refl _) hgone,
      h.leftward.sublist hgone (List.Sublist.refl _)⟩
  · exact h

theorem delivered (h : Calm net) {toLeft : List Frame} (hlink : net.toLeft = frame :: toLeft)
    (hsafe : Safe { net with left, toLeft })
    (hext : Extends (net.left.acknowledge frame.req) left frames)
    (houtbound : left.outbound = net.left.outbound ++ frames)
    (hfailed : left.failed = net.left.failed)
    (hleftward : RejectedOnce net.right left (toLeft ++ net.right.outbound)
      ((net.toRight ++ net.left.outbound) ++ frames)) :
    Calm { net with left, toLeft } := by
  have hflow := h.safe.rightward
  have hprogress := h.rightward
  rw [hlink, List.cons_append] at hflow hprogress
  have hacked := hprogress.acknowledge.extend hflow.acknowledge hext
  refine ⟨hsafe, hfailed.trans h.leftAlive, h.rightAlive, ?_, ?_⟩
  · simpa only [houtbound, List.append_assoc] using hacked
  · simpa only [houtbound, List.append_assoc] using hleftward

/-- Taking in a supervisory frame, a reject included, keeps a safe net calm. -/
theorem deliver_supervision (h : Calm net) {toLeft : List Frame} {kind : Supervision} {req : Nat}
    (hlink : net.toLeft = .supervision kind req :: toLeft)
    (hsafe : Safe { net with left := (net.left.acknowledge req).supervised kind, toLeft }) :
    Calm { net with left := (net.left.acknowledge req).supervised kind, toLeft } := by
  have hleftward := h.leftward
  rw [hlink, List.cons_append] at hleftward
  have hskipped := hleftward.sublist (List.sublist_cons_self ..) (List.Sublist.refl _)
  have hready : ∀ busy, let told := { net.left.acknowledge req with remoteBusy := busy }
      Safe { net with left := told.fill, toLeft } →
      Calm { net with left := told.fill, toLeft } := by
    intro busy told hsafe
    have hflag : Extends (net.left.acknowledge req) told [] := .of_eq rfl rfl rfl rfl
    have hfill := Peer.fill_emits told
    exact h.delivered hlink hsafe (hflag.trans (.fill told)) hfill.outbound_eq
      (Peer.fill_failed told)
      (hskipped.reply hfill.expected_eq (Peer.filling_isReject told))
  cases kind with
  | ready => exact hready _ hsafe
  | notReady => exact hready _ hsafe
  | reject =>
    have hflow := h.safe.rightward
    have hprogress := h.rightward
    rw [hlink, List.cons_append] at hflow hprogress
    obtain ⟨hkept, hresent⟩ := hprogress.resend
    obtain ⟨told, htold⟩ : ∃ told : Peer,
        told = { net.left.acknowledge req with remoteBusy := false } := ⟨_, rfl⟩
    rw [← htold] at hkept hresent
    have halive : ¬ told.retransmit.failed = true := by simp [hkept, h.leftAlive]
    have hsupervised : (net.left.acknowledge req).supervised .reject = told.retransmit.fill := by
      rw [htold] at halive ⊢
      exact if_neg halive
    have hacked : Flow told net.right (net.toRight ++ net.left.outbound)
        (toLeft ++ net.right.outbound) := by
      rw [htold]
      exact { hflow.acknowledge with }
    have hsent := Peer.retransmit_emits told
    have hfill := Peer.fill_emits told.retransmit
    have houtbound : told.retransmit.fill.outbound =
        net.left.outbound ++ (told.resending ++ told.retransmit.filling) := by
      rw [hfill.outbound_eq, hsent.outbound_eq, htold, List.append_assoc]
      rfl
    have hexpected : told.retransmit.fill.expected = net.left.expected := by
      rw [hfill.expected_eq, hsent.expected_eq, htold]
      rfl
    rw [hsupervised] at hsafe ⊢
    refine ⟨hsafe, ?_, h.rightAlive, ?_, ?_⟩
    · exact (Peer.fill_failed _).trans (hkept.trans h.leftAlive)
    · have hfilled := hresent.extend (hacked.emits_sender hsent) (.fill _)
      simpa only [houtbound, List.append_assoc] using hfilled
    · have hreplied := hskipped.reply hexpected fun frame hframe =>
        (List.mem_append.mp hframe).elim (Peer.resending_isReject told frame)
          (Peer.filling_isReject told.retransmit frame)
      simpa only [houtbound, List.append_assoc] using hreplied

theorem deliver_info (h : Calm net) {toLeft : List Frame} {index req : Nat}
    (hlink : net.toLeft = .info index req :: toLeft)
    (hallowed : net.right.window = 1 ∨ net.left.localBusy = true ∨ index = net.left.expected ∨
      ¬ Recovering net.right (net.toRight ++ net.left.outbound))
    (hsafe : Safe { net with
      left := (net.left.acknowledge req).handle (.info index req), toLeft }) :
    Calm { net with left := (net.left.acknowledge req).handle (.info index req), toLeft } := by
  have hleftward := h.leftward
  rw [hlink, List.cons_append] at hleftward
  simp only [Peer.handle] at hsafe ⊢
  have hanswer : ∀ kind, Extends (net.left.acknowledge req)
      ((net.left.acknowledge req).emit
        [.supervision kind (net.left.acknowledge req).expected])
      [.supervision kind (net.left.acknowledge req).expected] :=
    fun kind => .of_eq rfl rfl rfl rfl
  by_cases hlocal : net.left.localBusy = true
  · rw [if_pos (show (net.left.acknowledge req).localBusy = true from hlocal)] at hsafe ⊢
    refine h.delivered hlink hsafe (hanswer .notReady) rfl rfl ?_
    refine (hleftward.sublist (List.sublist_cons_self ..) (List.Sublist.refl _)).reply rfl ?_
    simp [Frame.isReject]
  · rw [if_neg (show ¬ (net.left.acknowledge req).localBusy = true from hlocal)] at hsafe ⊢
    by_cases hindex : index = net.left.expected
    · rw [if_pos (show index = (net.left.acknowledge req).expected from hindex)] at hsafe ⊢
      obtain ⟨frames, houtbound, hext, hframes, hfailed, hexpected⟩ :=
        (net.left.acknowledge req).accept_extends
      rw [hindex] at hleftward
      refine h.delivered hlink hsafe hext houtbound hfailed ?_
      have htaken : RejectedOnce net.right { net.left with expected := net.left.expected + 1 }
          (toLeft ++ net.right.outbound) (net.toRight ++ net.left.outbound) :=
        hleftward.take
      exact htaken.reply hexpected hframes
    · rw [if_neg (show ¬ index = (net.left.acknowledge req).expected from hindex)] at hsafe ⊢
      refine h.delivered hlink hsafe (hanswer .reject) rfl rfl (hleftward.reject hindex ?_)
      exact hallowed.imp_right fun hrest => (hrest.resolve_left hlocal).resolve_left hindex

theorem deliver (h : Calm net) (hallowed : AllowedMove net .deliver) :
    Calm (net.stepLeft party .deliver) := by
  have hsafe := h.safe.deliver
  have halive : ¬ net.left.failed = true := by simp [h.leftAlive]
  cases hlink : net.toLeft with
  | nil =>
    rw [Net.stepLeft_deliver_nil hlink]
    exact h
  | cons frame toLeft =>
    rw [Net.stepLeft_deliver_cons hlink] at hsafe ⊢
    simp only [party, Peer.receive, halive] at hsafe ⊢
    cases frame with
    | supervision kind req => exact h.deliver_supervision hlink hsafe
    | info index req =>
      refine h.deliver_info hlink ?_ hsafe
      exact hallowed (.info index req) (by rw [hlink]; rfl) index rfl

theorem stepLeft (h : Calm net) (move : Move Input) (hallowed : AllowedMove net move) :
    Calm (net.stepLeft party move) := by
  cases move with
  | call input => exact h.call hallowed
  | poll => exact h.poll
  | deliver => exact h.deliver hallowed
  | lose index => exact h.lose index

end Calm

end Bumble.GoBackN
