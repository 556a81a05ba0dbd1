import Bumble.ChangeCounter
import Bumble.ByteOrder

/-!
# The volume, volume offset and audio input controls

The control points of three audio services.  Every write to one of them carries
an opcode, the change counter its client has read and, for some opcodes, an
operand.  The volume and the volume offset services compare the counter before
they look at anything else.  The audio input service decides opcode by opcode
whether it compares the counter and whether it counts the change, and `Keeps`
says which writes it handles as the other two would.

The locks are left out: nothing panics while one is held, so none is ever
poisoned.
-/

namespace Bumble.AudioControls

/-! ## 1. Error codes -/

def invalidAttributeValueLength : UInt8 := 0x0D

def invalidChangeCounter : UInt8 := 0x80
def opcodeNotSupported : UInt8 := 0x81

/-- A write that is refused before anything is done. -/
private abbrev refuse {σ : Type} (state : σ) (code : UInt8) : Outcome σ UInt8 Unit :=
  Outcome.fail state code

/-! ## 2. Volume control -/

structure VolumeState where
  volumeSetting : UInt8
  mute : UInt8
  changeCounter : UInt8
deriving DecidableEq, Repr

namespace VolumeControlPointOpcode

def relativeVolumeDown : UInt8 := 0x00
def relativeVolumeUp : UInt8 := 0x01
def unmuteRelativeVolumeDown : UInt8 := 0x02
def unmuteRelativeVolumeUp : UInt8 := 0x03
def setAbsoluteVolume : UInt8 := 0x04
def unmute : UInt8 := 0x05
def mute : UInt8 := 0x06

end VolumeControlPointOpcode

def saturatingSub (a b : UInt8) : UInt8 := UInt8.ofNat (a.toNat - b.toNat)

def saturatingAdd (a b : UInt8) : UInt8 := UInt8.ofNat (min 255 (a.toNat + b.toNat))

/-- The volume and mute settings an opcode asks for. -/
def VolumeState.requested (state : VolumeState) (stepSize opcode : UInt8) (value : Bytes) :
    Except UInt8 (UInt8 × UInt8) :=
  let down := saturatingSub state.volumeSetting stepSize
  let up := saturatingAdd state.volumeSetting stepSize
  if opcode = VolumeControlPointOpcode.relativeVolumeDown then .ok (down, state.mute)
  else if opcode = VolumeControlPointOpcode.relativeVolumeUp then .ok (up, state.mute)
  else if opcode = VolumeControlPointOpcode.unmuteRelativeVolumeDown then .ok (down, 0)
  else if opcode = VolumeControlPointOpcode.unmuteRelativeVolumeUp then .ok (up, 0)
  else if opcode = VolumeControlPointOpcode.setAbsoluteVolume then
    match value[2]? with
    | none => .error invalidAttributeValueLength
    | some setting => .ok (setting, state.mute)
  else if opcode = VolumeControlPointOpcode.unmute then .ok (state.volumeSetting, 0)
  else if opcode = VolumeControlPointOpcode.mute then .ok (state.volumeSetting, 1)
  else .error opcodeNotSupported

def updateVolume (stepSize : UInt8) (state : VolumeState) (value : Bytes) :
    Outcome VolumeState UInt8 Unit :=
  match value with
  | opcode :: counter :: _ =>
    if counter ≠ state.changeCounter then refuse state invalidChangeCounter
    else
      match state.requested stepSize opcode value with
      | .error code => refuse state code
      | .ok (volumeSetting, mute) =>
        if (volumeSetting, mute) ≠ (state.volumeSetting, state.mute) then
          Outcome.ok ⟨volumeSetting, mute, state.changeCounter + 1⟩ ()
        else
          Outcome.ok ⟨volumeSetting, mute, state.changeCounter⟩ ()
  | _ => refuse state invalidAttributeValueLength

/-! ## 3. Volume offset control -/

structure VolumeOffsetState where
  volumeOffset : Int16
  changeCounter : UInt8
deriving DecidableEq, Repr

def minVolumeOffset : Int16 := -255
def maxVolumeOffset : Int16 := 255

def setVolumeOffsetOpcode : UInt8 := 0x01
def VolumeOffset.valueOutOfRange : UInt8 := 0x82

def updateVolumeOffset (state : VolumeOffsetState) (value : Bytes) :
    Outcome VolumeOffsetState UInt8 Unit :=
  match value with
  | [] => refuse state invalidAttributeValueLength
  | opcode :: operands =>
    if opcode ≠ setVolumeOffsetOpcode then refuse state opcodeNotSupported
    else
      match operands with
      | [counter, low, high] =>
        if counter ≠ state.changeCounter then refuse state invalidChangeCounter
        else
          let offset := (u16FromLe low high).toInt16
          if minVolumeOffset ≤ offset ∧ offset ≤ maxVolumeOffset then
            Outcome.ok ⟨offset, state.changeCounter + 1⟩ ()
          else
            refuse state VolumeOffset.valueOutOfRange
      | _ => refuse state invalidAttributeValueLength

/-! ## 4. Audio input control -/

namespace AudioInput

def muteDisabled : UInt8 := 0x82
def valueOutOfRange : UInt8 := 0x83
def gainModeChangeNotAllowed : UInt8 := 0x84

end AudioInput

namespace Mute

def notMuted : UInt8 := 0x00
def muted : UInt8 := 0x01
def disabled : UInt8 := 0x02

end Mute

namespace GainMode

def manualOnly : UInt8 := 0x00
def automaticOnly : UInt8 := 0x01
def manual : UInt8 := 0x02
def automatic : UInt8 := 0x03

end GainMode

namespace AudioInputControlPointOpcode

def setGainSetting : UInt8 := 0x01
def unmute : UInt8 := 0x02
def mute : UInt8 := 0x03
def setManualGainMode : UInt8 := 0x04
def setAutomaticGainMode : UInt8 := 0x05

end AudioInputControlPointOpcode

structure AudioInputState where
  gainSettings : UInt8 := 0
  mute : UInt8 := Mute.notMuted
  gainMode : UInt8 := GainMode.manual
  changeCounter : UInt8 := 0
deriving DecidableEq, Repr

structure GainSettingsProperties where
  gainSettingsUnit : UInt8 := 1
  gainSettingsMinimum : UInt8 := 0
  gainSettingsMaximum : UInt8 := 255
deriving DecidableEq, Repr

namespace AudioInputState

variable (properties : GainSettingsProperties) (state : AudioInputState) (value : Bytes)

def setGainSetting : Outcome AudioInputState UInt8 Unit :=
  match value[2]? with
  | none => refuse state invalidAttributeValueLength
  | some setting =>
    if state.gainMode ≠ GainMode.manual ∧ state.gainMode ≠ GainMode.manualOnly then
      Outcome.ok state ()
    else if properties.gainSettingsMinimum ≤ setting ∧ setting ≤ properties.gainSettingsMaximum then
      -- neither compared with the counter nor counted
      Outcome.ok { state with gainSettings := setting } ()
    else
      refuse state AudioInput.valueOutOfRange

def setUnmuted : Outcome AudioInputState UInt8 Unit :=
  if state.mute = Mute.disabled then refuse state AudioInput.muteDisabled
  else if state.mute ≠ Mute.notMuted then
    Outcome.ok { state with mute := Mute.notMuted, changeCounter := state.changeCounter + 1 } ()
  else Outcome.ok state ()

def setMuted : Outcome AudioInputState UInt8 Unit :=
  if state.mute = Mute.disabled then refuse state AudioInput.muteDisabled
  else
    match value[1]? with
    | none => refuse state invalidAttributeValueLength
    | some counter =>
      if counter ≠ state.changeCounter then refuse state invalidChangeCounter
      else if state.mute ≠ Mute.muted then
        Outcome.ok { state with mute := Mute.muted, changeCounter := state.changeCounter + 1 } ()
      else Outcome.ok state ()

/-- The two gain mode operations, which differ in the mode they set. -/
def setGainMode (mode : UInt8) : Outcome AudioInputState UInt8 Unit :=
  if state.gainMode = GainMode.automaticOnly ∨ state.gainMode = GainMode.manualOnly then
    refuse state AudioInput.gainModeChangeNotAllowed
  else if state.gainMode ≠ mode then
    Outcome.ok { state with gainMode := mode, changeCounter := state.changeCounter + 1 } ()
  else Outcome.ok state ()

def setManualGainMode : Outcome AudioInputState UInt8 Unit := state.setGainMode GainMode.manual

def setAutomaticGainMode : Outcome AudioInputState UInt8 Unit :=
  state.setGainMode GainMode.automatic

end AudioInputState

def updateAudioInput (properties : GainSettingsProperties) (state : AudioInputState)
    (value : Bytes) : Outcome AudioInputState UInt8 Unit :=
  match value.head? with
  | none => refuse state invalidAttributeValueLength
  | some opcode =>
    if opcode = AudioInputControlPointOpcode.setGainSetting then
      state.setGainSetting properties value
    else if opcode = AudioInputControlPointOpcode.unmute then state.setUnmuted
    else if opcode = AudioInputControlPointOpcode.mute then state.setMuted value
    else if opcode = AudioInputControlPointOpcode.setManualGainMode then state.setManualGainMode
    else if opcode = AudioInputControlPointOpcode.setAutomaticGainMode then
      state.setAutomaticGainMode
    else refuse state opcodeNotSupported

/-! ## 5. The three services

A write is a client and the octets it sends; what the services do depends on the
octets alone. -/

variable {Client : Type}

def volumeControl (stepSize : UInt8) :
    CountedService VolumeState (UInt8 × UInt8) (Client × Bytes) UInt8 where
  settings state := (state.volumeSetting, state.mute)
  counter := VolumeState.changeCounter
  carried write := write.2[1]?
  write state write := updateVolume stepSize state write.2

def volumeOffsetControl : CountedService VolumeOffsetState Int16 (Client × Bytes) UInt8 where
  settings := VolumeOffsetState.volumeOffset
  counter := VolumeOffsetState.changeCounter
  carried write := write.2[1]?
  write state write := updateVolumeOffset state write.2

def audioInputControl (properties : GainSettingsProperties) :
    CountedService AudioInputState (UInt8 × UInt8 × UInt8) (Client × Bytes) UInt8 where
  settings state := (state.gainSettings, state.mute, state.gainMode)
  counter := AudioInputState.changeCounter
  carried write := write.2[1]?
  write state write := updateAudioInput properties state write.2

/-! ## 6. What one write can do

Each service has one lemma that says all a write can do; the facts about the
counter are read off it. -/

theorem updateVolume_cases (stepSize : UInt8) (state : VolumeState) (value : Bytes) :
    (∃ code, updateVolume stepSize state value = Outcome.fail state code) ∨
    (updateVolume stepSize state value = Outcome.ok state ()) ∨
    (value[1]? = some state.changeCounter ∧ ∃ volumeSetting mute,
      updateVolume stepSize state value =
        Outcome.ok ⟨volumeSetting, mute, state.changeCounter + 1⟩ ()) := by
  unfold updateVolume
  split
  next opcode counter operands =>
    split
    · exact .inl ⟨_, rfl⟩
    · rename_i hcounter
      split
      · exact .inl ⟨_, rfl⟩
      · rename_i volumeSetting mute _
        split
        · refine .inr (.inr ⟨?_, volumeSetting, mute, rfl⟩)
          simpa using hcounter
        · rename_i hsame
          obtain ⟨rfl, rfl⟩ : volumeSetting = state.volumeSetting ∧ mute = state.mute := by
            simpa using hsame
          exact .inr (.inl rfl)
  · exact .inl ⟨_, rfl⟩

theorem updateVolumeOffset_cases (state : VolumeOffsetState) (value : Bytes) :
    (∃ code, updateVolumeOffset state value = Outcome.fail state code) ∨
    (value[1]? = some state.changeCounter ∧ ∃ offset,
      updateVolumeOffset state value = Outcome.ok ⟨offset, state.changeCounter + 1⟩ ()) := by
  unfold updateVolumeOffset
  split
  · exact .inl ⟨_, rfl⟩
  · split
    · exact .inl ⟨_, rfl⟩
    · split
      · split
        · exact .inl ⟨_, rfl⟩
        · rename_i hcounter
          dsimp only
          split
          · exact .inr ⟨by simpa using hcounter, _, rfl⟩
          · exact .inl ⟨_, rfl⟩
      · exact .inl ⟨_, rfl⟩

/-! ## 7. The audio input's writes that respect the counter -/

/-- A gain setting that is taken is the one in force. -/
def KeepsGain (properties : GainSettingsProperties) (state : AudioInputState) (value : Bytes) :
    Prop :=
  ∀ setting, value[2]? = some setting →
    (state.gainMode = GainMode.manual ∨ state.gainMode = GainMode.manualOnly) →
    properties.gainSettingsMinimum ≤ setting → setting ≤ properties.gainSettingsMaximum →
    setting = state.gainSettings

/-- Unmuting has nothing to do, or it carries the counter. -/
def KeepsMute (state : AudioInputState) (value : Bytes) : Prop :=
  state.mute = Mute.disabled ∨ state.mute = Mute.notMuted ∨ value[1]? = some state.changeCounter

/-- The gain mode cannot or need not change, or the write carries the counter. -/
def KeepsMode (mode : UInt8) (state : AudioInputState) (value : Bytes) : Prop :=
  (state.gainMode = GainMode.automaticOnly ∨ state.gainMode = GainMode.manualOnly) ∨
    state.gainMode = mode ∨ value[1]? = some state.changeCounter

/-- The writes with which the audio input does what its sibling services do: no
    gain setting is changed, and unmuting or a new gain mode carries the counter. -/
def Keeps (properties : GainSettingsProperties) (state : AudioInputState) (value : Bytes) : Prop :=
  match value.head? with
  | none => True
  | some opcode =>
    if opcode = AudioInputControlPointOpcode.setGainSetting then KeepsGain properties state value
    else if opcode = AudioInputControlPointOpcode.unmute then KeepsMute state value
    else if opcode = AudioInputControlPointOpcode.mute then True
    else if opcode = AudioInputControlPointOpcode.setManualGainMode then
      KeepsMode GainMode.manual state value
    else if opcode = AudioInputControlPointOpcode.setAutomaticGainMode then
      KeepsMode GainMode.automatic state value
    else True

section AudioInput

variable {properties : GainSettingsProperties} {state : AudioInputState} {write : Client × Bytes}

theorem guarded_setGainSetting
    (hwrite : updateAudioInput properties state write.2 =
      state.setGainSetting properties write.2) :
    (audioInputControl properties).Guarded state write ↔ KeepsGain properties state write.2 := by
  unfold AudioInputState.setGainSetting at hwrite
  split at hwrite
  · rename_i hmissing
    refine iff_of_true (CountedService.guarded_of_unchanged (congrArg Outcome.state hwrite)) ?_
    intro setting hsetting
    rw [hmissing] at hsetting
    cases hsetting
  next setting hsetting =>
    split at hwrite
    · rename_i hmode
      refine iff_of_true (CountedService.guarded_of_unchanged (congrArg Outcome.state hwrite)) ?_
      intro setting _ hmanual
      exact absurd hmanual (not_or.mpr hmode)
    · rename_i hmode
      split at hwrite
      · rename_i hrange
        by_cases hsame : setting = state.gainSettings
        · refine iff_of_true (CountedService.guarded_of_unchanged ?_) ?_
          · subst hsame
            exact congrArg Outcome.state hwrite
          · intro other hother _ _ _
            rw [hsetting] at hother
            exact (Option.some.inj hother).symm.trans hsame
        · refine iff_of_false (CountedService.not_guarded_of_uncounted hwrite ?_ rfl) ?_
          · intro h
            exact hsame (congrArg Prod.fst h)
          · intro hkeeps
            exact hsame (hkeeps setting hsetting (by tauto) hrange.1 hrange.2)
      · rename_i hrange
        refine iff_of_true (CountedService.guarded_of_unchanged (congrArg Outcome.state hwrite)) ?_
        intro other hother _ hlow hhigh
        rw [hsetting] at hother
        obtain rfl := Option.some.inj hother
        exact absurd ⟨hlow, hhigh⟩ hrange

/-- **Operations that count but do not compare**: they respect the counter where they are
    refused, have nothing to do or carry it. -/
theorem guarded_iff_of_uncompared {fixed differs : Prop} [Decidable fixed] [Decidable differs]
    {code : UInt8} {next : AudioInputState}
    (hwrite : updateAudioInput properties state write.2 =
      if fixed then Outcome.fail state code
      else if differs then Outcome.ok next () else Outcome.ok state ())
    (hchanges : differs →
      (next.gainSettings, next.mute, next.gainMode) ≠
        (state.gainSettings, state.mute, state.gainMode))
    (hcounts : next.changeCounter = state.changeCounter + 1) :
    (audioInputControl properties).Guarded state write ↔
      fixed ∨ ¬ differs ∨ write.2[1]? = some state.changeCounter := by
  by_cases hfixed : fixed
  · rw [if_pos hfixed] at hwrite
    exact iff_of_true (CountedService.guarded_of_unchanged (congrArg Outcome.state hwrite))
      (.inl hfixed)
  · rw [if_neg hfixed] at hwrite
    by_cases hdiffers : differs
    · rw [if_pos hdiffers] at hwrite
      rw [CountedService.guarded_iff_of_counted hwrite (hchanges hdiffers) hcounts]
      simp only [hfixed, hdiffers, not_true_eq_false, false_or]
      exact Iff.rfl
    · rw [if_neg hdiffers] at hwrite
      exact iff_of_true (CountedService.guarded_of_unchanged (congrArg Outcome.state hwrite))
        (.inr (.inl hdiffers))

theorem guarded_setUnmuted
    (hwrite : updateAudioInput properties state write.2 = state.setUnmuted) :
    (audioInputControl properties).Guarded state write ↔ KeepsMute state write.2 := by
  rw [guarded_iff_of_uncompared hwrite (fun hmuted h => hmuted (by
    simpa [audioInputControl, eq_comm] using h)) rfl, KeepsMute, ne_eq, not_not]

theorem guarded_setMuted
    (hwrite : updateAudioInput properties state write.2 = state.setMuted write.2) :
    (audioInputControl properties).Guarded state write := by
  unfold AudioInputState.setMuted at hwrite
  split at hwrite
  · exact CountedService.guarded_of_unchanged (congrArg Outcome.state hwrite)
  · split at hwrite
    · exact CountedService.guarded_of_unchanged (congrArg Outcome.state hwrite)
    next counter hcounter =>
      split at hwrite
      · exact CountedService.guarded_of_unchanged (congrArg Outcome.state hwrite)
      · rename_i hcurrent
        split at hwrite
        · rename_i hmuted
          rw [CountedService.guarded_iff_of_counted hwrite (fun h => hmuted (by
            simpa [audioInputControl, eq_comm] using h)) rfl]
          exact hcounter.trans (congrArg some (not_not.mp hcurrent))
        · exact CountedService.guarded_of_unchanged (congrArg Outcome.state hwrite)

theorem guarded_setGainMode {mode : UInt8}
    (hwrite : updateAudioInput properties state write.2 = state.setGainMode mode) :
    (audioInputControl properties).Guarded state write ↔ KeepsMode mode state write.2 := by
  rw [guarded_iff_of_uncompared hwrite (fun hmode h => hmode (by
    simpa [audioInputControl, eq_comm] using h)) rfl, KeepsMode, ne_eq, not_not]

end AudioInput

/-- **One audio input write.**  A write respects the counter exactly when `Keeps`
    says so. -/
theorem audioInput_guarded_iff (properties : GainSettingsProperties) (state : AudioInputState)
    (write : Client × Bytes) :
    (audioInputControl properties).Guarded state write ↔ Keeps properties state write.2 := by
  obtain ⟨client, value⟩ := write
  cases value with
  | nil => exact iff_of_true (CountedService.guarded_of_unchanged rfl) trivial
  | cons opcode operands =>
    simp only [Keeps, List.head?_cons]
    split_ifs with hgain hunmute hmute hmanual hautomatic
    · apply guarded_setGainSetting
      simp only [updateAudioInput, List.head?_cons, if_pos hgain]
    · apply guarded_setUnmuted
      simp only [updateAudioInput, List.head?_cons, if_neg hgain, if_pos hunmute]
    · refine iff_of_true (guarded_setMuted ?_) trivial
      simp only [updateAudioInput, List.head?_cons, if_neg hgain, if_neg hunmute, if_pos hmute]
    · apply guarded_setGainMode
      simp only [updateAudioInput, List.head?_cons, if_neg hgain, if_neg hunmute, if_neg hmute,
        if_pos hmanual, AudioInputState.setManualGainMode]
    · apply guarded_setGainMode
      simp only [updateAudioInput, List.head?_cons, if_neg hgain, if_neg hunmute, if_neg hmute,
        if_neg hmanual, if_pos hautomatic, AudioInputState.setAutomaticGainMode]
    · refine iff_of_true (CountedService.guarded_of_unchanged ?_) trivial
      simp [CountedService.next, audioInputControl, updateAudioInput, hgain, hunmute, hmute,
        hmanual, hautomatic]

/-! ## 8. Runs -/

theorem volume_guarded (stepSize : UInt8) (state : VolumeState) (write : Client × Bytes) :
    (volumeControl stepSize).Guarded state write := by
  rcases updateVolume_cases stepSize state write.2 with ⟨code, h⟩ | h | ⟨hcounter, _, _, h⟩
  · exact CountedService.guarded_of_unchanged (congrArg Outcome.state h)
  · exact CountedService.guarded_of_unchanged (congrArg Outcome.state h)
  · refine ⟨fun _ => hcounter, fun _ => congrArg (VolumeState.changeCounter ∘ Outcome.state) h, ?_⟩
    intro error herror
    cases (congrArg Outcome.result h).symm.trans herror

theorem volumeOffset_guarded (state : VolumeOffsetState) (write : Client × Bytes) :
    volumeOffsetControl.Guarded state write := by
  rcases updateVolumeOffset_cases state write.2 with ⟨code, h⟩ | ⟨hcounter, _, h⟩
  · exact CountedService.guarded_of_unchanged (congrArg Outcome.state h)
  · refine ⟨fun _ => hcounter,
      fun _ => congrArg (VolumeOffsetState.changeCounter ∘ Outcome.state) h, ?_⟩
    intro error herror
    cases (congrArg Outcome.result h).symm.trans herror

theorem volume_steady (stepSize : UInt8) :
    (volumeControl stepSize : CountedService _ _ (Client × Bytes) _).Steady := by
  intro state write
  rcases updateVolume_cases stepSize state write.2 with ⟨code, h⟩ | h | ⟨_, _, _, h⟩
  · exact .inl (congrArg (VolumeState.changeCounter ∘ Outcome.state) h)
  · exact .inl (congrArg (VolumeState.changeCounter ∘ Outcome.state) h)
  · exact .inr (congrArg (VolumeState.changeCounter ∘ Outcome.state) h)

theorem volumeOffset_steady :
    (volumeOffsetControl : CountedService _ _ (Client × Bytes) _).Steady := by
  intro state write
  rcases updateVolumeOffset_cases state write.2 with ⟨code, h⟩ | ⟨_, _, h⟩
  · exact .inl (congrArg (VolumeOffsetState.changeCounter ∘ Outcome.state) h)
  · exact .inr (congrArg (VolumeOffsetState.changeCounter ∘ Outcome.state) h)

theorem audioInput_steady (properties : GainSettingsProperties) :
    (audioInputControl properties : CountedService _ _ (Client × Bytes) _).Steady := by
  intro state write
  simp only [CountedService.next, audioInputControl, updateAudioInput,
    AudioInputState.setGainSetting, AudioInputState.setUnmuted, AudioInputState.setMuted,
    AudioInputState.setManualGainMode, AudioInputState.setAutomaticGainMode,
    AudioInputState.setGainMode]
  split <;> try exact .inl rfl
  split_ifs <;> (repeat' split) <;> first | exact .inl rfl | exact .inr rfl

/-- **The change counters against lost updates.**  In every run of writes, by any
    number of clients, the volume and the volume offset services let a write change
    a setting only under the current counter, count every change by one, leave the
    state alone when they answer with an error, and let two writes that carry one
    counter value both change something only when the counter has gone round between
    them.  The audio input service does so exactly in the runs all of whose writes
    `Keeps` allows: its gain setting is changed without the counter being compared or
    moved, and its unmute and gain mode operations do not compare it. -/
theorem changeCounters_guard_iff (stepSize : UInt8) (volume : VolumeState)
    (offset : VolumeOffsetState) (properties : GainSettingsProperties) (input : AudioInputState)
    (volumeWrites offsetWrites inputWrites : List (Client × Bytes)) :
    (volumeControl stepSize).Guards volume volumeWrites ∧
      volumeOffsetControl.Guards offset offsetWrites ∧
      ((audioInputControl properties).Guards input inputWrites ↔
        ∀ before write after, inputWrites = before ++ write :: after →
          Keeps properties ((audioInputControl properties).run input before) write.2) := by
  refine ⟨?_, ?_, ?_⟩
  · exact CountedService.guards_of_guarded (volume_steady stepSize) (volume_guarded stepSize)
      volume volumeWrites
  · exact CountedService.guards_of_guarded volumeOffset_steady volumeOffset_guarded offset
      offsetWrites
  · rw [CountedService.guards_iff (audioInput_steady properties)]
    simp only [audioInput_guarded_iff]

/-- Two clients have read that the input is not muted, at counter 0: the first mutes it, and
    the second one's unmute, still under counter 0, takes the change back. -/
theorem audioInput_unmuted_by_stale_write :
    let writes : List (Nat × Bytes) := [(0, [0x03, 0x00]), (1, [0x02, 0x00])]
    ((audioInputControl {}).run {} (writes.take 1)).mute = Mute.muted ∧
      ((audioInputControl {}).run {} writes).mute = Mute.notMuted ∧
      ((audioInputControl {}).run {} writes).changeCounter = 2 ∧
      ¬ (audioInputControl {}).Guards {} writes := by
  refine ⟨by decide, by decide, by decide, ?_⟩
  intro hguards
  have hunmute := hguards.each [(0, [0x03, 0x00])] _ _ rfl
  exact absurd (hunmute.current (by decide)) (by decide)

end Bumble.AudioControls
