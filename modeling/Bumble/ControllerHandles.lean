import Bumble.HandleGrants

/-!
# Handles over the life of a controller

A handle is not given again while the counter lasts, so the handles of a controller
are valid and distinct exactly as long as the counter has not passed the last valid
handle (`validHandles_iff`): taking links down gives nothing back, nor does a reset.
-/

namespace Bumble.Controller

open Bumble.Smp (Address)

/-! ## 1. Valid handles -/

def lastHandle : Nat := 0x0EFF

def linkHandles (controller : Controller) : List Nat := controller.allHandles.filter (· ≠ 0)

structure ValidHandles (controller : Controller) : Prop where
  valid : ∀ handle ∈ controller.linkHandles, 1 ≤ handle ∧ handle ≤ lastHandle
  distinct : controller.linkHandles.Nodup

/-- How many handles a run asks for, up to a panic. -/
def requestedIn (controller : Controller) : List Call → Nat
  | [] => 0
  | call :: calls =>
    controller.requested call + ((controller.step call).map (·.requestedIn calls)).getD 0

/-! ## 2. Steps -/

/-- Every handle in use has come from the counter, and no two links share one. -/
structure Issued (controller : Controller) : Prop where
  positive : 1 ≤ controller.nextHandle
  below : ∀ handle ∈ controller.linkHandles, handle < controller.nextHandle
  distinct : controller.linkHandles.Nodup
  streams : ∀ handle ∈ controller.cisHandles, handle ≠ 0

variable {controller next : Controller} {count : Nat}

theorem mem_linkHandles {handle : Nat} :
    handle ∈ controller.linkHandles ↔ handle ≠ 0 ∧ handle ∈ controller.allHandles := by
  unfold linkHandles
  rw [List.mem_filter, decide_eq_true_eq, and_comm]

theorem count_linkHandles {handle : Nat} (hhandle : handle ≠ 0) :
    controller.linkHandles.count handle = controller.allHandles.count handle :=
  List.count_filter (decide_eq_true hhandle)

theorem Issued.grants (hissued : Issued controller) (hgrants : Grants controller next count) :
    Issued next := by
  have hcount : ∀ handle ∈ next.linkHandles,
      next.allHandles.count handle ≤ 1 ∧ handle < next.nextHandle := by
    intro handle hhandle
    obtain ⟨hnonzero, hmem⟩ := mem_linkHandles.mp hhandle
    have hcounted := hgrants.counted handle hnonzero
    have hpositive := List.count_pos_iff.mpr hmem
    have hfresh := List.nodup_iff_count_le_one.mp
      (List.nodup_range' (s := controller.nextHandle) (n := count)) handle
    have hcounter := hgrants.counter
    by_cases hold : handle ∈ controller.linkHandles
    · have hbelow := hissued.below handle hold
      have hnone : (List.range' controller.nextHandle count).count handle = 0 := by
        refine List.count_eq_zero.mpr fun hrange => ?_
        have habove := (List.mem_range'_1.mp hrange).1
        omega
      have hone := List.nodup_iff_count_le_one.mp hissued.distinct handle
      rw [count_linkHandles hnonzero] at hone
      exact ⟨by omega, by omega⟩
    · have hnone : controller.allHandles.count handle = 0 := by
        rw [← count_linkHandles hnonzero]
        exact List.count_eq_zero.mpr hold
      have hrange := (List.mem_range'_1.mp (List.count_pos_iff.mp
        (by omega : 0 < (List.range' controller.nextHandle count).count handle))).2
      exact ⟨by omega, by omega⟩
  have hpositive := hissued.positive
  refine ⟨by rw [hgrants.counter]; omega, fun handle hhandle => (hcount handle hhandle).2,
    ?_, ?_⟩
  · refine List.nodup_iff_count_le_one.mpr fun handle => ?_
    by_cases hhandle : handle ∈ next.linkHandles
    · rw [count_linkHandles (mem_linkHandles.mp hhandle).1]
      exact (hcount handle hhandle).1
    · rw [List.count_eq_zero.mpr hhandle]
      exact Nat.zero_le 1
  · intro handle hmem
    rcases hgrants.streams handle hmem with hold | hrange
    · exact hissued.streams handle hold
    · have habove := (List.mem_range'_1.mp hrange).1
      omega

theorem Issued.validHandles (hissued : Issued controller)
    (hroom : controller.nextHandle ≤ lastHandle + 1) : ValidHandles controller where
  valid := by
    intro handle hhandle
    have hbelow := hissued.below handle hhandle
    have hnonzero := (mem_linkHandles.mp hhandle).1
    exact ⟨by omega, by omega⟩
  distinct := hissued.distinct

theorem Grants.not_validHandles (hgrants : Grants controller next count)
    (hroom : controller.nextHandle ≤ lastHandle + 1)
    (hpast : lastHandle + 1 < controller.nextHandle + count) : ¬ ValidHandles next := by
  intro hvalid
  have hlast : lastHandle + 1 ∈ List.range' controller.nextHandle count :=
    List.mem_range'_1.mpr ⟨hroom, hpast⟩
  have hcount := hgrants.fresh (lastHandle + 1) (Nat.succ_ne_zero _)
  have hpositive := List.count_pos_iff.mpr hlast
  have hlink : lastHandle + 1 ∈ next.linkHandles :=
    mem_linkHandles.mpr ⟨Nat.succ_ne_zero _, List.count_pos_iff.mp (by omega)⟩
  have hle := (hvalid.valid _ hlink).2
  omega

/-! ## 3. Runs -/

/-- Every state of a run is reached without a panic, and all its handles are valid. -/
def ValidThroughout (controller : Controller) (calls : List Call) : Prop :=
  ∀ before after, calls = before ++ after →
    ∃ reached, controller.run before = some reached ∧ ValidHandles reached

theorem validThroughout_cons {call : Call} {calls : List Call} :
    ValidThroughout controller (call :: calls) ↔ ValidHandles controller ∧
      ∃ next, controller.step call = some next ∧ ValidThroughout next calls := by
  constructor
  · intro hvalid
    obtain ⟨start, hstart, hfirst⟩ := hvalid [] (call :: calls) rfl
    obtain rfl := Option.some.inj hstart
    obtain ⟨reached, hreached, -⟩ := hvalid [call] calls rfl
    rw [run_cons] at hreached
    obtain ⟨next, hnext, -⟩ := Option.bind_eq_some_iff.mp hreached
    refine ⟨hfirst, next, hnext, ?_⟩
    rintro before after rfl
    obtain ⟨reached, hreached, hlater⟩ := hvalid (call :: before) after rfl
    rw [run_cons, hnext] at hreached
    exact ⟨reached, hreached, hlater⟩
  · rintro ⟨hfirst, next, hnext, hlater⟩ before after hsplit
    cases before with
    | nil => exact ⟨controller, rfl, hfirst⟩
    | cons head before =>
      obtain ⟨rfl, htail⟩ := List.cons.inj hsplit
      rw [run_cons, hnext]
      exact hlater before after htail

theorem validThroughout_iff_requestedIn (calls : List Call) (hissued : Issued controller)
    (hroom : controller.nextHandle ≤ lastHandle + 1) :
    ValidThroughout controller calls ↔
      controller.nextHandle + controller.requestedIn calls ≤ lastHandle + 1 := by
  induction calls generalizing controller with
  | nil =>
    refine ⟨fun _ => hroom, fun _ before after hsplit => ?_⟩
    obtain ⟨rfl, -⟩ := List.append_eq_nil_iff.mp hsplit.symm
    exact ⟨controller, rfl, hissued.validHandles hroom⟩
  | cons call calls ih =>
    rw [validThroughout_cons]
    unfold requestedIn
    rcases controller.step_handled call with ⟨next, hnext, hgrants⟩ | ⟨hnone, hfull⟩
    · rw [hnext, Option.map_some, Option.getD_some, ← Nat.add_assoc, ← hgrants.counter]
      by_cases hnextRoom : next.nextHandle ≤ lastHandle + 1
      · rw [← ih (hissued.grants hgrants) hnextRoom]
        constructor
        · rintro ⟨-, after, hafter, hvalid⟩
          obtain rfl := Option.some.inj hafter
          exact hvalid
        · intro hvalid
          exact ⟨hissued.validHandles hroom, next, rfl, hvalid⟩
      · have hcounter := hgrants.counter
        refine iff_of_false ?_ (by omega)
        rintro ⟨-, after, hafter, hvalid⟩
        obtain rfl := Option.some.inj hafter
        obtain ⟨reached, hreached, hfirst⟩ := hvalid [] calls rfl
        obtain rfl := Option.some.inj hreached
        exact hgrants.not_validHandles hroom (by omega) hfirst
    · rw [hnone]
      refine iff_of_false ?_ ?_
      · rintro ⟨-, next, hnext, -⟩
        cases hnext
      · unfold lastHandle
        omega

theorem issued_new (name : Bytes) (publicAddress : Address) :
    Issued (Controller.new name publicAddress) where
  positive := le_rfl
  below := fun _ hnone => nomatch hnone
  distinct := List.nodup_nil
  streams := fun _ hnone => nomatch hnone

/-- **Handles of a controller.**  They are valid and distinct in every state of a run, and
no call overflows, exactly when the whole run asks for no more handles than there are. -/
theorem validHandles_iff (name : Bytes) (publicAddress : Address) (calls : List Call) :
    ValidThroughout (Controller.new name publicAddress) calls ↔
      (Controller.new name publicAddress).requestedIn calls ≤ lastHandle := by
  have hroom : (Controller.new name publicAddress).nextHandle ≤ lastHandle + 1 :=
    (by decide : 1 ≤ lastHandle + 1)
  rw [validThroughout_iff_requestedIn calls (issued_new name publicAddress) hroom]
  change 1 + _ ≤ lastHandle + 1 ↔ _
  omega

/-- A host that configures one CIG of 31 streams again and again, with no other link. -/
def testReconfigure : List Call :=
  List.replicate 124 (.command (.leSetCigParameters 1 ((List.range 31).map UInt8.ofNat)))

def testPublicAddress : Address := ⟨#v[1, 0, 0, 0, 0, 0], 0⟩

/-- At most 31 links exist at a time, and in the end their handles are no longer valid. -/
theorem reconfigure_not_valid :
    ¬ ValidThroughout (Controller.new [] testPublicAddress) testReconfigure := by
  rw [validThroughout_iff_requestedIn _ (issued_new _ _) (by decide)]
  set_option maxRecDepth 30000 in decide

/-! ## 4. Handles that are given up -/

/-- Every handle of the later state was there before or has come from the counter since. -/
structure Later (controller next : Controller) : Prop where
  issued : Issued next
  counter : controller.nextHandle ≤ next.nextHandle
  given : ∀ handle ∈ next.linkHandles,
    handle ∈ controller.linkHandles ∨ controller.nextHandle ≤ handle

theorem Issued.later_grants (hissued : Issued controller) (hgrants : Grants controller next count) :
    Later controller next := by
  refine ⟨hissued.grants hgrants, by rw [hgrants.counter]; omega, ?_⟩
  intro handle hhandle
  obtain ⟨hnonzero, hmem⟩ := mem_linkHandles.mp hhandle
  have hcounted := hgrants.counted handle hnonzero
  have hpositive := List.count_pos_iff.mpr hmem
  by_cases hold : handle ∈ controller.allHandles
  · exact .inl (mem_linkHandles.mpr ⟨hnonzero, hold⟩)
  · rw [List.count_eq_zero.mpr hold, Nat.zero_add] at hcounted
    have hgiven : 0 < (List.range' controller.nextHandle count).count handle := by omega
    exact .inr (List.mem_range'_1.mp (List.count_pos_iff.mp hgiven)).1

theorem Issued.later_run (calls : List Call) : ∀ {controller next : Controller}, Issued controller →
    controller.run calls = some next → Later controller next := by
  induction calls with
  | nil =>
    intro controller next hissued hrun
    obtain rfl := Option.some.inj hrun
    exact ⟨hissued, le_rfl, fun _ hhandle => .inl hhandle⟩
  | cons call calls ih =>
    intro controller next hissued hrun
    rw [run_cons] at hrun
    obtain ⟨middle, hstep, hrun⟩ := Option.bind_eq_some_iff.mp hrun
    rcases controller.step_handled call with ⟨after, hafter, hgrants⟩ | ⟨hnone, -⟩
    · obtain rfl := Option.some.inj (hafter.symm.trans hstep)
      have hfirst := hissued.later_grants hgrants
      have hrest := ih hfirst.issued hrun
      refine ⟨hrest.issued, hfirst.counter.trans hrest.counter, ?_⟩
      intro handle hhandle
      rcases hrest.given handle hhandle with hkept | habove
      · exact hfirst.given handle hkept
      · exact .inr (hfirst.counter.trans habove)
    · cases hnone.symm.trans hstep

/-- A run that asks for no more handles than the counter has left comes to its end. -/
theorem exists_run (calls : List Call) : ∀ {controller : Controller},
    controller.nextHandle + controller.requestedIn calls ≤ 0xFFFF →
      ∃ next, controller.run calls = some next := by
  induction calls with
  | nil => exact fun _ => ⟨_, rfl⟩
  | cons call calls ih =>
    intro controller hroom
    unfold requestedIn at hroom
    rcases controller.step_handled call with ⟨next, hnext, hgrants⟩ | ⟨-, hfull⟩
    · rw [hnext, Option.map_some, Option.getD_some, ← Nat.add_assoc, ← hgrants.counter] at hroom
      rw [run_cons, hnext]
      exact ih hroom
    · omega

theorem run_append (calls later : List Call) :
    controller.run (calls ++ later) = (controller.run calls).bind fun next => next.run later :=
  List.foldlM_append

/-- **A handle is never given again.**  In every run that asks for no more handles than the
counter can count, the links of every state have handles of their own, and a handle that
some link has had and that no link has any more is not the handle of any link later on. -/
theorem handles_never_reused (name : Bytes) (publicAddress : Address)
    (calls dropping later : List Call)
    (hrequested : (Controller.new name publicAddress).requestedIn (calls ++ (dropping ++ later)) ≤
      0xFFFE) :
    ∃ first second third, (Controller.new name publicAddress).run calls = some first ∧
      first.run dropping = some second ∧ second.run later = some third ∧
      third.linkHandles.Nodup ∧ ∀ handle ∈ first.linkHandles, handle ∉ second.linkHandles →
        handle ∉ third.linkHandles := by
  have hroom : (Controller.new name publicAddress).nextHandle +
      (Controller.new name publicAddress).requestedIn (calls ++ (dropping ++ later)) ≤ 0xFFFF := by
    change 1 + _ ≤ _
    omega
  obtain ⟨third, hrun⟩ := exists_run _ hroom
  rw [run_append] at hrun
  obtain ⟨first, hfirst, hrun⟩ := Option.bind_eq_some_iff.mp hrun
  rw [run_append] at hrun
  obtain ⟨second, hsecond, hthird⟩ := Option.bind_eq_some_iff.mp hrun
  have hissued := ((issued_new name publicAddress).later_run calls hfirst).issued
  have hdropped := hissued.later_run dropping hsecond
  have hreached := hdropped.issued.later_run later hthird
  refine ⟨first, second, third, hfirst, hsecond, hthird, hreached.issued.distinct, ?_⟩
  intro handle hused hfree hagain
  rcases hreached.given handle hagain with hkept | habove
  · exact hfree hkept
  · have hbelow := hissued.below handle hused
    exact absurd hdropped.counter (by omega)

/-- A stream is configured, removed and configured again. -/
theorem removed_stream_handle :
    let configure : Call := .command (.leSetCigParameters 1 [1])
    ∃ first second third, (Controller.new [] testPublicAddress).run [configure] = some first ∧
      first.run [.command (.leRemoveCig 1)] = some second ∧ second.run [configure] = some third ∧
      1 ∈ first.linkHandles ∧ 1 ∉ second.linkHandles ∧ 1 ∉ third.linkHandles := by
  intro configure
  obtain ⟨first, second, third, hfirst, hsecond, hthird, -, hgone⟩ :=
    handles_never_reused [] testPublicAddress [configure] [.command (.leRemoveCig 1)] [configure]
      (by decide)
  obtain rfl := Option.some.inj hfirst
  obtain rfl := Option.some.inj hsecond
  exact ⟨_, _, third, hfirst, hsecond, hthird, by decide, by decide,
    hgone 1 (by decide) (by decide)⟩

end Bumble.Controller
