import Bumble.L2capCodec
import Bumble.ClassicRenegotiation

/-!
# What a Configuration Request changes (`bumble-l2cap/src/classic.rs`)

The option loop of `on_configure_request` reads the options that it accepts one by
one (`OptionScan.read`) and stops at the first that it does not.  It keeps
retransmission and FCS options to itself until the end of the request and writes an
MTU into the channel at once.

Both choices show.  A request that is refused later has already changed the MTU of
the peer (`refused_unchanged_iff`), and what a continued request said of
retransmission and FCS is forgotten when the next one arrives
(`continuation_transparent_iff`).
-/

namespace Bumble.Classic

open Bumble.L2cap (Error ControlFrame ConfigurationOption L2capPdu l2capSignalingCid
  configurationSuccess configurationUnacceptableParameters configurationUnknownOptions
  configurationOptionMtu configurationOptionRetransmissionAndFlowControl configurationOptionFcs
  decodeConfigurationOptions encodeConfigurationOptions)
open Bumble.Ertm (ErtmEngine)

/-! ## 1. One option -/

namespace OptionScan

def mtu? (option : ConfigurationOption) : Option UInt16 :=
  if option.optionType = configurationOptionMtu then
    match option.value with
    | [low, high] => some (u16FromLe low high)
    | _ => none
  else none

def ertm? (option : ConfigurationOption) : Option ErtmOption :=
  if option.optionType = configurationOptionRetransmissionAndFlowControl then
    decodeErtmOption option.value
  else none

def fcs? (option : ConfigurationOption) : Option Bool :=
  if option.optionType = configurationOptionFcs then
    match option.value with
    | [value] => some (value ≠ 0)
    | _ => none
  else none

def acceptable (mode : ClassicChannelMode) (option : ConfigurationOption) : Bool :=
  if option.optionType = configurationOptionMtu then
    match option.value with
    | [low, high] => !(u16FromLe low high < l2capMinBrEdrMtu)
    | _ => false
  else if option.optionType = configurationOptionRetransmissionAndFlowControl then
    match decodeErtmOption option.value with
    | none => false
    | some parameters => parameters.acceptable mode
  else if option.optionType = configurationOptionFcs then
    match option.value with
    | [value] => !(value > 1)
    | _ => false
  else option.hint

def known (option : ConfigurationOption) : Bool :=
  option.optionType = configurationOptionMtu ||
    option.optionType = configurationOptionRetransmissionAndFlowControl ||
    option.optionType = configurationOptionFcs

/-- What the loop has read behind an acceptable option. -/
def read (scan : OptionScan) (option : ConfigurationOption) : OptionScan where
  result := scan.result
  responseOptions := if known option then scan.responseOptions ++ [option] else scan.responseOptions
  peerMtu := (mtu? option).getD scan.peerMtu
  peerErtm := (ertm? option).or scan.peerErtm
  peerFcs := (fcs? option).or scan.peerFcs

end OptionScan

open OptionScan

theorem scanOptions_read {mode : ClassicChannelMode} {option : ConfigurationOption}
    (hoption : acceptable mode option = true) (rest : List ConfigurationOption)
    (scan : OptionScan) :
    scanOptions mode (option :: rest) scan = scanOptions mode rest (scan.read option) := by
  rw [scanOptions]
  unfold acceptable at hoption
  unfold OptionScan.read known mtu? ertm? fcs?
  by_cases hmtu : option.optionType = configurationOptionMtu
  · simp only [hmtu, if_true] at hoption ⊢
    split at hoption
    · next low high hvalue =>
      simp only [Bool.not_eq_true', decide_eq_false_iff_not] at hoption
      simp only [hvalue]
      rw [if_neg hoption]
      rfl
    · cases hoption
  · simp only [if_neg hmtu] at hoption ⊢
    by_cases hertm : option.optionType = configurationOptionRetransmissionAndFlowControl
    · simp only [hertm, if_true] at hoption ⊢
      split at hoption
      · cases hoption
      · next parameters hvalue =>
        simp only [hvalue, if_pos hoption]
        rfl
    · simp only [if_neg hertm] at hoption ⊢
      by_cases hfcs : option.optionType = configurationOptionFcs
      · simp only [hfcs, if_true] at hoption ⊢
        split at hoption
        · next value hvalue =>
          simp only [Bool.not_eq_true', decide_eq_false_iff_not] at hoption
          simp only [hvalue, if_neg hoption]
          rfl
        · cases hoption
      · simp only [if_neg hfcs] at hoption ⊢
        rw [if_pos hoption]
        simp [hmtu, hertm, hfcs]

theorem scanOptions_refuse {mode : ClassicChannelMode} {option : ConfigurationOption}
    (hoption : acceptable mode option = false) (rest : List ConfigurationOption)
    (scan : OptionScan) : ∃ result response, result ≠ configurationSuccess ∧
      scanOptions mode (option :: rest) scan = scan.refuse result response := by
  have hparameters : configurationUnacceptableParameters ≠ configurationSuccess := by decide
  have hunknown : configurationUnknownOptions ≠ configurationSuccess := by decide
  rw [scanOptions]
  unfold acceptable at hoption
  split
  · next hmtu =>
    rw [if_pos hmtu] at hoption
    split
    · next low high hvalue =>
      simp only [hvalue, Bool.not_eq_false', decide_eq_true_eq] at hoption
      dsimp only
      rw [if_pos hoption]
      exact ⟨_, _, hparameters, rfl⟩
    · exact ⟨_, _, hparameters, rfl⟩
  · next hmtu =>
    rw [if_neg hmtu] at hoption
    split
    · next hertm =>
      rw [if_pos hertm] at hoption
      split
      · exact ⟨_, _, hparameters, rfl⟩
      · next parameters hvalue =>
        simp only [hvalue] at hoption
        rw [if_neg (by rw [hoption]; decide)]
        exact ⟨_, _, hparameters, rfl⟩
    · next hertm =>
      rw [if_neg hertm] at hoption
      split
      · next hfcs =>
        rw [if_pos hfcs] at hoption
        split
        · next value hvalue =>
          simp only [hvalue, Bool.not_eq_false', decide_eq_true_eq] at hoption
          rw [if_pos hoption]
          exact ⟨_, _, hparameters, rfl⟩
        · exact ⟨_, _, hparameters, rfl⟩
      · next hfcs =>
        rw [if_neg hfcs] at hoption
        rw [if_neg (by rw [hoption]; decide)]
        exact ⟨_, _, hunknown, rfl⟩

/-! ## 2. A list of options -/

/-- What the last option of a kind in a list says. -/
def lastOf {α : Type} (kind? : ConfigurationOption → Option α)
    (options : List ConfigurationOption) : Option α := (options.filterMap kind?).getLast?

section LastOf

variable {α : Type} (kind? : ConfigurationOption → Option α)

theorem lastOf_append (options rest : List ConfigurationOption) :
    lastOf kind? (options ++ rest) = (lastOf kind? rest).or (lastOf kind? options) := by
  rw [lastOf, List.filterMap_append, List.getLast?_append]
  rfl

theorem lastOf_cons (option : ConfigurationOption) (rest : List ConfigurationOption) :
    lastOf kind? (option :: rest) = (lastOf kind? rest).or (kind? option) := by
  have hone : lastOf kind? [option] = kind? option := by
    cases hkind : kind? option <;> simp [lastOf, hkind]
  rw [← hone, ← lastOf_append]
  rfl

end LastOf

theorem getD_or {α : Type} (first second : Option α) (value : α) :
    (first.or second).getD value = first.getD (second.getD value) := by
  cases first <;> rfl

theorem foldl_read (options : List ConfigurationOption) : ∀ scan : OptionScan,
    ∃ response, options.foldl OptionScan.read scan =
      { result := scan.result
        responseOptions := response
        peerMtu := (lastOf mtu? options).getD scan.peerMtu
        peerErtm := (lastOf ertm? options).or scan.peerErtm
        peerFcs := (lastOf fcs? options).or scan.peerFcs } := by
  induction options with
  | nil => exact fun scan => ⟨scan.responseOptions, rfl⟩
  | cons option rest ih =>
    intro scan
    obtain ⟨response, hread⟩ := ih (scan.read option)
    refine ⟨response, ?_⟩
    rw [List.foldl_cons, hread, lastOf_cons, lastOf_cons, lastOf_cons, getD_or, Option.or_assoc,
      Option.or_assoc]
    rfl

theorem scanOptions_append {mode : ClassicChannelMode} (options : List ConfigurationOption) :
    ∀ (scan : OptionScan), (∀ option ∈ options, acceptable mode option = true) →
      ∀ rest, scanOptions mode (options ++ rest) scan =
        scanOptions mode rest (options.foldl OptionScan.read scan) := by
  induction options with
  | nil => exact fun _ _ _ => rfl
  | cons option options ih =>
    intro scan hoptions rest
    obtain ⟨hoption, hothers⟩ := List.forall_mem_cons.mp hoptions
    rw [List.cons_append, scanOptions_read hoption, ih _ hothers]
    rfl

/-- The options in front of the first that is not accepted. -/
def accepted (mode : ClassicChannelMode) (options : List ConfigurationOption) :
    List ConfigurationOption := options.takeWhile (acceptable mode)

/-- **The option loop.**  It reads the accepted options, and fails unless they are all. -/
theorem scanOptions_eq (mode : ClassicChannelMode) (options : List ConfigurationOption)
    (peerMtu : UInt16) : ∃ result response,
      (result = configurationSuccess ↔ accepted mode options = options) ∧
      scanOptions mode options (.start peerMtu) =
        { result
          responseOptions := response
          peerMtu := (lastOf mtu? (accepted mode options)).getD peerMtu
          peerErtm := lastOf ertm? (accepted mode options)
          peerFcs := lastOf fcs? (accepted mode options) } := by
  have hsplit := List.takeWhile_append_dropWhile (p := acceptable mode) (l := options)
  have haccepted : ∀ option ∈ accepted mode options, acceptable mode option = true :=
    fun option hoption => List.mem_takeWhile_imp hoption
  obtain ⟨response, hread⟩ := foldl_read (accepted mode options) (.start peerMtu)
  have hscan := scanOptions_append _ (.start peerMtu) haccepted
    (options.dropWhile (acceptable mode))
  rw [accepted] at hscan hread ⊢
  rw [hsplit, hread] at hscan
  rw [hscan]
  cases hrest : options.dropWhile (acceptable mode) with
  | nil =>
    refine ⟨configurationSuccess, response, iff_of_true rfl ?_, ?_⟩
    · rw [hrest, List.append_nil] at hsplit
      exact hsplit
    · rw [scanOptions]
      simp only [OptionScan.start, Option.or_none]
  | cons option rest =>
    have hoption : acceptable mode option = false := by
      have hne : options.dropWhile (acceptable mode) ≠ [] := by
        rw [hrest]
        exact List.cons_ne_nil option rest
      have hhead := List.head_dropWhile_not (acceptable mode) hne
      simpa only [hrest, List.head_cons] using hhead
    obtain ⟨result, refused, hresult, hrefuse⟩ := scanOptions_refuse hoption rest
      { result := configurationSuccess
        responseOptions := response
        peerMtu := (lastOf mtu? (options.takeWhile (acceptable mode))).getD peerMtu
        peerErtm := (lastOf ertm? (options.takeWhile (acceptable mode))).or none
        peerFcs := (lastOf fcs? (options.takeWhile (acceptable mode))).or none }
    refine ⟨result, [refused], iff_of_false hresult ?_, ?_⟩
    · intro hall
      rw [hall, hrest] at hsplit
      simp at hsplit
    · refine hrefuse.trans ?_
      simp only [OptionScan.refuse, Option.or_none]

/-! ## 3. The end of a request -/

/-- The retransmission parameters, if any, that a channel and the last options of each
    kind agree on; nothing when they do not. -/
def agreed (spec : ChannelSpec) (peerErtm : Option ErtmOption) (peerFcs : Option Bool) :
    Option (Option ErtmOption) :=
  match spec.ertmSpec, peerErtm with
  | some ertm, some parameters =>
    if peerFcs.getD false = ertm.fcsEnabled then some (some parameters) else none
  | some _, none => none
  | none, some _ => none
  | none, none => if peerFcs.getD false then none else some none

namespace ClassicChannel

variable (channel : ClassicChannel)

theorem concludeConfiguration_success (answer : List ConfigurationOption) :
    channel.concludeConfiguration configurationSuccess answer =
      .ok { channel with peerConfigurationReceived := true } (configurationSuccess, answer) := by
  rw [concludeConfiguration, if_pos rfl]

theorem concludeConfiguration_refused (answer : List ConfigurationOption) :
    channel.concludeConfiguration configurationUnacceptableParameters answer =
      .ok { channel with
        state := .closed, connectionResult := some configurationUnacceptableParameters }
        (configurationUnacceptableParameters, answer) := by
  rw [concludeConfiguration, if_neg (by decide)]

theorem completeConfiguration_disagreed (scan : OptionScan)
    (hagreed : agreed channel.spec scan.peerErtm scan.peerFcs = none) :
    ∃ answer, channel.completeConfiguration scan =
      .ok { channel with
        state := .closed, connectionResult := some configurationUnacceptableParameters }
        (configurationUnacceptableParameters, answer) := by
  unfold agreed at hagreed
  unfold completeConfiguration
  cases hspec : channel.spec.ertmSpec with
  | some ertm =>
    cases hertm : scan.peerErtm with
    | some parameters =>
      simp only [hspec, hertm] at hagreed
      split at hagreed
      · cases hagreed
      · next hfcs =>
        dsimp only
        rw [if_pos hfcs]
        exact ⟨_, concludeConfiguration_refused _ _⟩
    | none => exact ⟨_, concludeConfiguration_refused _ _⟩
  | none =>
    have hrefused : scan.peerErtm.isSome = true ∨ scan.peerFcs.getD false = true := by
      cases hertm : scan.peerErtm with
      | some parameters => exact .inl rfl
      | none =>
        simp only [hspec, hertm] at hagreed
        split at hagreed
        · next hfcs => exact .inr hfcs
        · cases hagreed
    dsimp only
    rw [if_pos hrefused]
    exact ⟨_, concludeConfiguration_refused _ _⟩

theorem completeConfiguration_plain (scan : OptionScan)
    (hresult : scan.result = configurationSuccess)
    (hagreed : agreed channel.spec scan.peerErtm scan.peerFcs = some none) :
    ∃ answer, channel.completeConfiguration scan =
      .ok { channel with peerConfigurationReceived := true } (configurationSuccess, answer) := by
  unfold agreed at hagreed
  unfold completeConfiguration
  cases hspec : channel.spec.ertmSpec with
  | some ertm =>
    cases hertm : scan.peerErtm with
    | some parameters =>
      simp only [hspec, hertm] at hagreed
      split at hagreed <;> cases hagreed
    | none => simp [hspec, hertm] at hagreed
  | none =>
    cases hertm : scan.peerErtm with
    | some parameters => simp [hspec, hertm] at hagreed
    | none =>
      simp only [hspec, hertm] at hagreed
      split at hagreed
      · cases hagreed
      · next hfcs =>
        dsimp only
        rw [if_neg (by simp [hfcs]), hresult]
        exact ⟨_, concludeConfiguration_success _ _⟩

theorem completeConfiguration_ertm (scan : OptionScan) {parameters : ErtmOption}
    (hresult : scan.result = configurationSuccess)
    (hagreed : agreed channel.spec scan.peerErtm scan.peerFcs = some (some parameters)) :
    ∃ ertm, channel.spec.ertmSpec = some ertm ∧ scan.peerErtm = some parameters ∧
      match ErtmEngine.new (ertmConfig ertm parameters) with
      | .error error => channel.completeConfiguration scan =
          .fail { channel with peerMps := parameters.mps, fcsEnabled := ertm.fcsEnabled } error
      | .ok engine => ∃ answer, channel.completeConfiguration scan =
          .ok { channel with
            peerMps := parameters.mps, fcsEnabled := ertm.fcsEnabled, ertm := some engine
            peerConfigurationReceived := true } (configurationSuccess, answer) := by
  unfold agreed at hagreed
  unfold completeConfiguration
  cases hspec : channel.spec.ertmSpec with
  | none =>
    cases hertm : scan.peerErtm with
    | some parameters => simp [hspec, hertm] at hagreed
    | none =>
      simp only [hspec, hertm] at hagreed
      split at hagreed <;> cases hagreed
  | some ertm =>
    cases hertm : scan.peerErtm with
    | none => simp [hspec, hertm] at hagreed
    | some others =>
      simp only [hspec, hertm] at hagreed
      split at hagreed
      · next hfcs =>
        obtain rfl : others = parameters := Option.some.inj (Option.some.inj hagreed)
        refine ⟨ertm, rfl, rfl, ?_⟩
        dsimp only
        rw [if_neg (not_not_intro hfcs)]
        cases ErtmEngine.new (ertmConfig ertm others) with
        | error error => rfl
        | ok engine =>
          dsimp only
          rw [hresult]
          exact ⟨_, concludeConfiguration_success _ _⟩
      · cases hagreed

end ClassicChannel

/-! ## 4. Refused requests -/

variable {manager : ChannelManager} {localCid : UInt16} {channel : ClassicChannel}
  {encoded : Bytes} {options : List ConfigurationOption}

/-- The call answers a request from `remoteCid` with this result. -/
def Answers (manager next : ChannelManager) (identifier : UInt8) (remoteCid result : UInt16) :
    Prop :=
  ∃ options, next.outbound = manager.outbound ++
    [⟨l2capSignalingCid, (ControlFrame.configureResponse identifier remoteCid 0 result
      options).toBytes⟩]

theorem result_of_toBytes {identifier : UInt8} {remoteCid result other : UInt16}
    {first second : Bytes}
    (hbytes : (ControlFrame.configureResponse identifier remoteCid 0 result first).toBytes =
      (ControlFrame.configureResponse identifier remoteCid 0 other second).toBytes) :
    result = other := by
  have hlow := congrArg (fun bytes : Bytes => bytes[8]?) hbytes
  have hhigh := congrArg (fun bytes : Bytes => bytes[9]?) hbytes
  simp only [ControlFrame.toBytes, ControlFrame.payload, u16ToLe, List.cons_append,
    List.nil_append, List.getElem?_cons_succ, List.getElem?_cons_zero, Option.some.injEq]
    at hlow hhigh
  rw [← u16FromLe_toLe result, hlow, hhigh, u16FromLe_toLe]

theorem maybeOpen_outbound (manager : ChannelManager) (cid : UInt16) :
    (manager.maybeOpen cid).outbound = manager.outbound := by
  unfold ChannelManager.maybeOpen
  split
  · rfl
  · split
    · split <;> rfl
    · rfl

theorem onConfigureRequest_channel (hchannel : manager.channels[localCid]? = some channel)
    (hdecode : decodeConfigurationOptions encoded = .ok options) (identifier : UInt8)
    (flags : UInt16) :
    (manager.onConfigureRequest identifier localCid flags encoded).state.channels[localCid]? =
      some (if (channel.onConfigureOptions flags options).result.isOk then
        (channel.onConfigureOptions flags options).state.opened
      else (channel.onConfigureOptions flags options).state) := by
  rw [ChannelManager.onConfigureRequest, hdecode]
  dsimp only
  rw [hchannel]
  dsimp only
  cases hresult : (channel.onConfigureOptions flags options).result with
  | error error =>
    simp only [Except.isOk, Except.toBool, Outcome.fail_state, OrderedMap.getElem?_insert, if_true]
    rfl
  | ok answer =>
    obtain ⟨result, response⟩ := answer
    obtain ⟨bytes, hencode⟩ := ChannelManager.encode_short response
      (ChannelManager.answer_short (ChannelManager.decode_short hdecode) hresult)
    simp only [hencode, Outcome.ok_state]
    have hget : (({ manager with
        channels := manager.channels.insert localCid
          (channel.onConfigureOptions flags options).state } : ChannelManager).queueControl
        (.configureResponse identifier channel.destinationCid 0 result bytes)).channels[localCid]? =
        some (channel.onConfigureOptions flags options).state := by
      simp only [ChannelManager.queueControl, OrderedMap.getElem?_insert, if_true]
    rw [ChannelManager.maybeOpen_eq hget, OrderedMap.getElem?_insert, if_pos rfl]
    rfl

theorem answers_iff (hchannel : manager.channels[localCid]? = some channel)
    (hdecode : decodeConfigurationOptions encoded = .ok options) (identifier : UInt8)
    (flags result : UInt16) :
    Answers manager (manager.onConfigureRequest identifier localCid flags encoded).state identifier
        channel.destinationCid result ↔
      ∃ answer, (channel.onConfigureOptions flags options).result = .ok (result, answer) := by
  rw [ChannelManager.onConfigureRequest, hdecode]
  dsimp only
  rw [hchannel]
  dsimp only
  cases hresult : (channel.onConfigureOptions flags options).result with
  | error error =>
    apply iff_of_false
    · rintro ⟨options, houtbound⟩
      have hlength := congrArg List.length houtbound
      simp at hlength
    · rintro ⟨answer, hanswer⟩
      cases hanswer
  | ok answer =>
    obtain ⟨other, response⟩ := answer
    obtain ⟨bytes, hencode⟩ := ChannelManager.encode_short response
      (ChannelManager.answer_short (ChannelManager.decode_short hdecode) hresult)
    simp only [hencode, Outcome.ok_state, Answers, maybeOpen_outbound]
    constructor
    · rintro ⟨options, houtbound⟩
      have hlast := List.append_cancel_left houtbound
      have hbytes := congrArg L2capPdu.payload (List.singleton_injective hlast)
      have hsame : other = result := result_of_toBytes hbytes
      exact ⟨response, by rw [hsame]⟩
    · rintro ⟨answer, hanswer⟩
      obtain ⟨rfl, rfl⟩ := Prod.mk.inj (Except.ok.inj hanswer)
      exact ⟨bytes, rfl⟩

/-- The request is refused: by one of its options, or, when nothing continues it, by all
    of them together. -/
def Refused (channel : ClassicChannel) (flags : UInt16) (options : List ConfigurationOption) :
    Prop :=
  accepted channel.mode options ≠ options ∨
    flags &&& 1 = 0 ∧ agreed channel.spec (lastOf ertm? options) (lastOf fcs? options) = none

theorem onConfigureOptions_refused {flags : UInt16} (hrefused : Refused channel flags options) :
    ∃ result answer, result ≠ configurationSuccess ∧
      (channel.onConfigureOptions flags options).result = .ok (result, answer) ∧
      ∃ state connectionResult, (channel.onConfigureOptions flags options).state = { channel with
        peerMtu := (lastOf mtu? (accepted channel.mode options)).getD channel.peerMtu
        state, connectionResult } := by
  obtain ⟨result, response, hresult, hscan⟩ :=
    scanOptions_eq channel.mode options channel.peerMtu
  rw [ClassicChannel.onConfigureOptions, hscan]
  dsimp only
  by_cases hall : accepted channel.mode options = options
  · obtain ⟨hflags, hnone⟩ := hrefused.resolve_left (not_not_intro hall)
    rw [if_pos ⟨hresult.mpr hall, hflags⟩, hall]
    obtain ⟨answer, hcomplete⟩ := ClassicChannel.completeConfiguration_disagreed
      { channel with peerMtu := (lastOf mtu? options).getD channel.peerMtu }
      ⟨result, response, (lastOf mtu? options).getD channel.peerMtu,
        lastOf ertm? options, lastOf fcs? options⟩ hnone
    rw [hcomplete]
    exact ⟨_, answer, by decide, rfl, _, _, rfl⟩
  · have hfailed : result ≠ configurationSuccess := fun h => hall (hresult.mp h)
    rw [if_neg fun h => hfailed h.1]
    exact ⟨result, response, hfailed, rfl, channel.state, channel.connectionResult, rfl⟩

theorem onConfigureOptions_accepted {flags result : UInt16} {answer : List ConfigurationOption}
    (haccepted : ¬ Refused channel flags options)
    (hanswer : (channel.onConfigureOptions flags options).result = .ok (result, answer)) :
    result = configurationSuccess := by
  obtain ⟨scanned, response, hresult, hscan⟩ :=
    scanOptions_eq channel.mode options channel.peerMtu
  obtain ⟨hall, hagreed⟩ := not_or.mp haccepted
  have hall := not_not.mp hall
  obtain rfl := hresult.mpr hall
  rw [ClassicChannel.onConfigureOptions, hscan, hall] at hanswer
  dsimp only at hanswer
  by_cases hflags : flags &&& 1 = 0
  · rw [if_pos ⟨rfl, hflags⟩] at hanswer
    cases hagree : agreed channel.spec (lastOf ertm? options) (lastOf fcs? options) with
    | none => exact absurd ⟨hflags, hagree⟩ hagreed
    | some agreement =>
      cases agreement with
      | none =>
        obtain ⟨_, hcomplete⟩ := ClassicChannel.completeConfiguration_plain
          { channel with peerMtu := (lastOf mtu? options).getD channel.peerMtu }
          ⟨configurationSuccess, response, (lastOf mtu? options).getD channel.peerMtu,
            lastOf ertm? options, lastOf fcs? options⟩ rfl hagree
        rw [hcomplete] at hanswer
        exact (congrArg Prod.fst (Except.ok.inj hanswer)).symm
      | some parameters =>
        obtain ⟨ertm, -, -, hcomplete⟩ := ClassicChannel.completeConfiguration_ertm
          { channel with peerMtu := (lastOf mtu? options).getD channel.peerMtu }
          ⟨configurationSuccess, response, (lastOf mtu? options).getD channel.peerMtu,
            lastOf ertm? options, lastOf fcs? options⟩ rfl hagree
        split at hcomplete
        · rw [hcomplete] at hanswer
          cases hanswer
        · obtain ⟨_, hcomplete⟩ := hcomplete
          rw [hcomplete] at hanswer
          exact (congrArg Prod.fst (Except.ok.inj hanswer)).symm
  · rw [if_neg fun h => hflags h.2] at hanswer
    exact (congrArg Prod.fst (Except.ok.inj hanswer)).symm

structure Unchanged (channel after : ClassicChannel) : Prop where
  peerMtu : after.peerMtu = channel.peerMtu
  peerMps : after.peerMps = channel.peerMps
  fcsEnabled : after.fcsEnabled = channel.fcsEnabled
  ertm : after.ertm = channel.ertm

/-- **Refusals.**  A request that is answered with another result than success leaves its
    channel unchanged exactly when, if it is refused, the last MTU option that is
    accepted before that repeats the MTU of the peer, or there is none. -/
theorem refused_unchanged_iff (hchannel : manager.channels[localCid]? = some channel)
    (hdecode : decodeConfigurationOptions encoded = .ok options) (identifier : UInt8)
    (flags : UInt16) :
    (∀ result, result ≠ configurationSuccess →
      Answers manager (manager.onConfigureRequest identifier localCid flags encoded).state
        identifier channel.destinationCid result →
      ∃ after, (manager.onConfigureRequest identifier localCid flags
          encoded).state.channels[localCid]? = some after ∧ Unchanged channel after) ↔
    (Refused channel flags options →
      lastOf mtu? (accepted channel.mode options) = none ∨
        lastOf mtu? (accepted channel.mode options) = some channel.peerMtu) := by
  have hmtu : ∀ last : Option UInt16, last = none ∨ last = some channel.peerMtu ↔
      last.getD channel.peerMtu = channel.peerMtu := by
    intro last
    cases last <;> simp
  rw [hmtu]
  by_cases hrefused : Refused channel flags options
  · obtain ⟨result, answer, hfailed, hanswer, state, connectionResult, hstate⟩ :=
      onConfigureOptions_refused hrefused
    have hafter := onConfigureRequest_channel hchannel hdecode identifier flags
    rw [hanswer] at hafter
    have hkept : ∀ next : ClassicChannel,
        Unchanged channel next.opened ↔ Unchanged channel next := by
      intro next
      rcases next.opened_cases with hsame | ⟨hopened, -⟩
      · rw [hsame]
      · rw [hopened]
        exact ⟨fun h => ⟨h.peerMtu, h.peerMps, h.fcsEnabled, h.ertm⟩,
          fun h => ⟨h.peerMtu, h.peerMps, h.fcsEnabled, h.ertm⟩⟩
    have hunchanged : Unchanged channel (channel.onConfigureOptions flags options).state.opened ↔
        (lastOf mtu? (accepted channel.mode options)).getD channel.peerMtu = channel.peerMtu := by
      rw [hkept, hstate]
      exact ⟨fun h => h.peerMtu, fun h => ⟨h, rfl, rfl, rfl⟩⟩
    rw [← hunchanged]
    constructor
    · intro hall _
      obtain ⟨after, hget, hsame⟩ := hall result hfailed
        ((answers_iff hchannel hdecode identifier flags result).mpr ⟨answer, hanswer⟩)
      rw [hafter] at hget
      rw [← Option.some.inj hget] at hsame
      exact hsame
    · intro hsame _ _ _
      exact ⟨_, hafter, hsame hrefused⟩
  · refine iff_of_true ?_ (fun h => absurd h hrefused)
    intro result hfailed hanswers
    obtain ⟨answer, hanswer⟩ := (answers_iff hchannel hdecode identifier flags result).mp hanswers
    exact absurd (onConfigureOptions_accepted hrefused hanswer) hfailed

/-- A server has accepted a channel with this specification. -/
def acceptedChannel (spec : ChannelSpec) : ClassicChannel := .newIncoming 0x1001 0x40 0x41 spec

def withChannel (spec : ChannelSpec) : ChannelManager :=
  { channels := (∅ : Std.ExtTreeMap UInt16 ClassicChannel).insert 0x40 (acceptedChannel spec) }

theorem valid_default : ChannelSpec.Valid (.ertm {}) :=
  show validateErtmSpec {} = .ok () by decide

theorem withChannel_channel (spec : ChannelSpec) :
    (withChannel spec).channels[(0x40 : UInt16)]? = some (acceptedChannel spec) := by
  rw [withChannel, OrderedMap.getElem?_insert, if_pos rfl]

/-- An FCS option with the value 7 is refused, and nothing else has been said. -/
theorem refused_alone_unchanged :
    ∃ after, ((withChannel (.basic {})).onConfigureRequest 1 0x40 0
        [5, 1, 7]).state.channels[(0x40 : UInt16)]? = some after ∧
      Unchanged (acceptedChannel (.basic {})) after := by
  refine (refused_unchanged_iff (withChannel_channel _)
    (show decodeConfigurationOptions [5, 1, 7] = .ok [⟨5, false, [7]⟩] by decide) 1 0).mpr ?_
    configurationUnacceptableParameters (by decide) ⟨[5, 1, 7], by decide⟩
  intro _
  exact .inl (by decide)

/-- Behind an MTU option of 100 the same refusal leaves the peer with that MTU. -/
theorem refused_changes_mtu :
    ¬ ∀ result, result ≠ configurationSuccess →
      Answers (withChannel (.basic {})) ((withChannel (.basic {})).onConfigureRequest 1 0x40 0
        [1, 2, 100, 0, 5, 1, 7]).state 1 (acceptedChannel (.basic {})).destinationCid result →
      ∃ after, ((withChannel (.basic {})).onConfigureRequest 1 0x40 0
          [1, 2, 100, 0, 5, 1, 7]).state.channels[(0x40 : UInt16)]? = some after ∧
        Unchanged (acceptedChannel (.basic {})) after := by
  intro hall
  obtain ⟨after, hafter, hsame⟩ := hall configurationUnacceptableParameters (by decide)
    ⟨[5, 1, 7], by decide⟩
  have hmtu : (((withChannel (.basic {})).onConfigureRequest 1 0x40 0
      [1, 2, 100, 0, 5, 1, 7]).state.channels[(0x40 : UInt16)]?.map (·.peerMtu)) = some 100 := by
    decide
  rw [hafter, Option.map_some, hsame.peerMtu] at hmtu
  exact absurd hmtu (by decide)

/-! ## 5. Continued requests -/

/-- A channel as `outgoing` and `incoming` make it: its specification passed its check
    and gave it its mode. -/
structure ClassicChannel.WellMade (channel : ClassicChannel) : Prop where
  valid : channel.spec.Valid
  mode : channel.mode = channel.spec.mode

theorem wellMade_newIncoming {spec : ChannelSpec} (hspec : spec.Valid) (psm : UInt32)
    (sourceCid destinationCid : UInt16) :
    (ClassicChannel.newIncoming psm sourceCid destinationCid spec).WellMade := ⟨hspec, rfl⟩

/-- The configuration of a channel: what its peer has asked for, and how far it is. -/
structure Configuration where
  peerMtu : UInt16
  peerMps : UInt16
  fcsEnabled : Bool
  engine : Option Ertm.ErtmConfig
  peerConfigurationReceived : Bool
  state : ClassicChannelState
deriving DecidableEq, Repr

namespace ClassicChannel

def configuration (channel : ClassicChannel) : Configuration where
  peerMtu := channel.peerMtu
  peerMps := channel.peerMps
  fcsEnabled := channel.fcsEnabled
  engine := channel.ertm.map (·.config)
  peerConfigurationReceived := channel.peerConfigurationReceived
  state := channel.state

/-- The state of a channel whose peer has configured it. -/
def receivedState (channel : ClassicChannel) : ClassicChannelState :=
  if channel.configurationResponseReceived = true ∧ channel.state = .configuring then .open_
  else channel.state

/-- The configuration that a complete request leaves. -/
def settled (channel : ClassicChannel) (peerMtu : UInt16) :
    Option (Option ErtmOption) → Configuration
  | none => { channel.configuration with peerMtu, state := .closed }
  | some none => { channel.configuration with
      peerMtu, peerConfigurationReceived := true, state := channel.receivedState }
  | some (some parameters) =>
    { peerMtu
      peerMps := parameters.mps
      fcsEnabled := (channel.spec.ertmSpec.map (·.fcsEnabled)).getD channel.fcsEnabled
      engine := channel.spec.ertmSpec.map fun ertm => ertmConfig ertm parameters
      peerConfigurationReceived := true
      state := channel.receivedState }

variable (channel : ClassicChannel)

theorem settled_opened (peerMtu : UInt16) (agreement : Option (Option ErtmOption)) :
    channel.opened.settled peerMtu agreement = channel.settled peerMtu agreement := by
  rcases channel.opened_cases with hsame | ⟨hopened, hstate, -, hresponse⟩
  · rw [hsame]
  · rw [hopened]
    have hreceived : channel.receivedState = .open_ := if_pos ⟨hresponse, hstate⟩
    have hopen : ({ channel with
        state := .open_, openAnnounced := channel.openAnnounced || channel.incoming } :
          ClassicChannel).receivedState = .open_ := by
      rw [receivedState, if_neg (fun h => nomatch h.2)]
    match agreement with
    | none => rfl
    | some none => rw [settled, settled, hreceived, hopen]; rfl
    | some (some parameters) => rw [settled, settled, hreceived, hopen]

theorem configuration_opened_received (next : ClassicChannel)
    (hreceived : next.peerConfigurationReceived = true) :
    next.opened.configuration = { next.configuration with state := next.receivedState } := by
  have hready : next.readyToOpen = true ↔
      next.configurationResponseReceived = true ∧ next.state = .configuring := by
    simp [readyToOpen, hreceived]
  unfold opened receivedState
  by_cases hopen : next.readyToOpen = true
  · rw [if_pos hopen, if_pos (hready.mp hopen)]
    rfl
  · rw [if_neg hopen, if_neg (fun h => hopen (hready.mpr h))]
    rfl

theorem opened_of_closed (next : ClassicChannel) (hstate : next.state = .closed) :
    next.opened = next := by
  rw [opened, if_neg]
  simp [readyToOpen, hstate]

end ClassicChannel

theorem accepted_of_forall {mode : ClassicChannelMode}
    (hoptions : ∀ option ∈ options, acceptable mode option = true) :
    accepted mode options = options := List.takeWhile_eq_self_iff.mpr hoptions

theorem acceptable_lastOf {mode : ClassicChannelMode}
    (hoptions : ∀ option ∈ options, acceptable mode option = true) {parameters : ErtmOption}
    (hlast : lastOf ertm? options = some parameters) : parameters.acceptable mode = true := by
  obtain ⟨option, hoption, hertm⟩ := List.mem_filterMap.mp (List.mem_of_getLast? hlast)
  have haccept := hoptions option hoption
  unfold ertm? at hertm
  split at hertm
  · next htype =>
    have hmtu : ¬ option.optionType = configurationOptionMtu := by
      rw [htype]
      decide
    unfold acceptable at haccept
    rw [if_neg hmtu, if_pos htype, hertm] at haccept
    exact haccept
  · cases hertm

theorem onConfigureOptions_continued {flags : UInt16}
    (hoptions : ∀ option ∈ options, acceptable channel.mode option = true)
    (hflags : flags &&& 1 ≠ 0) :
    (channel.onConfigureOptions flags options).result.isOk ∧
      (channel.onConfigureOptions flags options).state =
        { channel with peerMtu := (lastOf mtu? options).getD channel.peerMtu } := by
  obtain ⟨result, response, -, hscan⟩ := scanOptions_eq channel.mode options channel.peerMtu
  rw [accepted_of_forall hoptions] at hscan
  rw [ClassicChannel.onConfigureOptions, hscan]
  dsimp only
  rw [if_neg fun h => hflags h.2]
  exact ⟨rfl, rfl⟩

/-- Acceptable options of a last request settle the channel by the last of each kind. -/
theorem onConfigureOptions_complete (hmade : channel.WellMade) {flags : UInt16}
    (hoptions : ∀ option ∈ options, acceptable channel.mode option = true)
    (hflags : flags &&& 1 = 0) :
    (channel.onConfigureOptions flags options).result.isOk ∧
      (channel.onConfigureOptions flags options).state.opened.configuration =
        channel.settled ((lastOf mtu? options).getD channel.peerMtu)
          (agreed channel.spec (lastOf ertm? options) (lastOf fcs? options)) := by
  obtain ⟨result, response, hresult, hscan⟩ :=
    scanOptions_eq channel.mode options channel.peerMtu
  rw [accepted_of_forall hoptions] at hresult hscan
  obtain rfl := hresult.mpr rfl
  rw [ClassicChannel.onConfigureOptions, hscan]
  dsimp only
  rw [if_pos ⟨rfl, hflags⟩]
  let named : ClassicChannel :=
    { channel with peerMtu := (lastOf mtu? options).getD channel.peerMtu }
  let scan : OptionScan :=
    ⟨configurationSuccess, response, (lastOf mtu? options).getD channel.peerMtu,
    lastOf ertm? options, lastOf fcs? options⟩
  change (named.completeConfiguration scan).result.isOk = true ∧
    (named.completeConfiguration scan).state.opened.configuration = _
  cases hagree : agreed channel.spec (lastOf ertm? options) (lastOf fcs? options) with
  | none =>
    obtain ⟨answer, hcomplete⟩ := named.completeConfiguration_disagreed scan hagree
    rw [hcomplete]
    refine ⟨rfl, ?_⟩
    rw [Outcome.ok_state, ClassicChannel.opened_of_closed _ rfl]
    rfl
  | some agreement =>
    cases agreement with
    | none =>
      obtain ⟨answer, hcomplete⟩ := named.completeConfiguration_plain scan rfl hagree
      rw [hcomplete]
      refine ⟨rfl, ?_⟩
      rw [Outcome.ok_state, ClassicChannel.configuration_opened_received _ rfl]
      rfl
    | some parameters =>
      obtain ⟨ertm, hertm, hlast, hcomplete⟩ := named.completeConfiguration_ertm scan rfl hagree
      have haccept := acceptable_lastOf hoptions hlast
      have hspec : channel.spec = .ertm ertm := by
        cases hspec : channel.spec with
        | basic spec =>
          change channel.spec.ertmSpec = _ at hertm
          rw [hspec] at hertm
          cases hertm
        | ertm spec =>
          change channel.spec.ertmSpec = _ at hertm
          rw [hspec] at hertm
          rw [Option.some.inj hertm]
      have hvalid := hmade.valid
      rw [hspec] at hvalid
      rw [hmade.mode, hspec] at haccept
      rw [new_ertmConfig hvalid haccept] at hcomplete
      obtain ⟨answer, hcomplete⟩ := hcomplete
      rw [hcomplete]
      refine ⟨rfl, ?_⟩
      rw [Outcome.ok_state, ClassicChannel.configuration_opened_received _ rfl,
        ClassicChannel.settled, hspec]
      rfl

/-- One of the requests that a list of options is sent in. -/
structure ConfigurePart where
  identifier : UInt8
  flags : UInt16
  encoded : Bytes
  options : List ConfigurationOption
  decodes : decodeConfigurationOptions encoded = .ok options

/-- The manager after these requests for one channel. -/
def deliver (manager : ChannelManager) (localCid : UInt16) (parts : List ConfigurePart) :
    ChannelManager :=
  parts.foldl (fun manager part =>
    (manager.onConfigureRequest part.identifier localCid part.flags part.encoded).state) manager

/-- What continued requests leave of their channel for the one that completes them. -/
structure Continued (channel : ClassicChannel) (options : List ConfigurationOption)
    (next : ClassicChannel) : Prop where
  peerMtu : next.peerMtu = (lastOf mtu? options).getD channel.peerMtu
  spec : next.spec = channel.spec
  mode : next.mode = channel.mode
  settled : ∀ peerMtu agreement, next.settled peerMtu agreement = channel.settled peerMtu agreement

theorem Continued.wellMade {next : ClassicChannel} (h : Continued channel options next)
    (hmade : channel.WellMade) : next.WellMade := by
  refine ⟨?_, ?_⟩
  · rw [h.spec]
    exact hmade.valid
  · rw [h.mode, h.spec]
    exact hmade.mode

theorem continued_opened (peerMtu : UInt16)
    (hpeerMtu : peerMtu = (lastOf mtu? options).getD channel.peerMtu) :
    Continued channel options { channel with peerMtu }.opened := by
  have hsettled : ∀ other agreement, { channel with peerMtu }.opened.settled other agreement =
      channel.settled other agreement := by
    intro other agreement
    rw [ClassicChannel.settled_opened]
    match agreement with
    | none => rfl
    | some none => rfl
    | some (some parameters) => rfl
  rcases ({ channel with peerMtu } : ClassicChannel).opened_cases with hsame | ⟨hopened, -⟩
  · exact ⟨by rw [hsame, hpeerMtu], by rw [hsame], by rw [hsame], hsettled⟩
  · exact ⟨by rw [hopened, hpeerMtu], by rw [hopened], by rw [hopened], hsettled⟩

theorem Continued.trans {next last : ClassicChannel} {others : List ConfigurationOption}
    (hfirst : Continued channel options next) (hsecond : Continued next others last) :
    Continued channel (options ++ others) last := by
  refine ⟨?_, ?_, ?_, ?_⟩
  · rw [hsecond.peerMtu, hfirst.peerMtu, lastOf_append, getD_or]
  · rw [hsecond.spec, hfirst.spec]
  · rw [hsecond.mode, hfirst.mode]
  · intro peerMtu agreement
    rw [hsecond.settled, hfirst.settled]

theorem deliver_continued (parts : List ConfigurePart) :
    ∀ {manager : ChannelManager} {channel : ClassicChannel},
      manager.channels[localCid]? = some channel →
      (∀ part ∈ parts, part.flags &&& 1 ≠ 0 ∧
        ∀ option ∈ part.options, acceptable channel.mode option = true) →
      ∃ next, (deliver manager localCid parts).channels[localCid]? = some next ∧
        Continued channel (parts.flatMap (·.options)) next := by
  induction parts with
  | nil => exact fun hchannel _ => ⟨_, hchannel, rfl, rfl, rfl, fun _ _ => rfl⟩
  | cons part parts ih =>
    intro manager channel hchannel hparts
    obtain ⟨⟨hflags, hoptions⟩, hothers⟩ := List.forall_mem_cons.mp hparts
    obtain ⟨hok, hstate⟩ := onConfigureOptions_continued hoptions hflags
    have hafter := onConfigureRequest_channel hchannel part.decodes part.identifier part.flags
    rw [if_pos hok, hstate] at hafter
    have hfirst : Continued channel part.options _ := continued_opened _ rfl
    have hmode := hfirst.mode
    obtain ⟨next, hget, hnext⟩ := ih hafter (by rw [hmode]; exact hothers)
    exact ⟨next, hget, hfirst.trans hnext⟩

/-- The channel has been closed since it was configured as agreed. -/
structure Reconfirmed (channel : ClassicChannel) (agreement : Option ErtmOption) : Prop where
  closed : channel.state = .closed
  received : channel.peerConfigurationReceived = true
  same : ∀ parameters, agreement = some parameters →
    channel.peerMps = parameters.mps ∧
      channel.fcsEnabled = (channel.spec.ertmSpec.map (·.fcsEnabled)).getD channel.fcsEnabled ∧
      channel.ertm.map (·.config) = channel.spec.ertmSpec.map fun ertm => ertmConfig ertm parameters

theorem receivedState_closed (channel : ClassicChannel) :
    channel.receivedState = .closed ↔ channel.state = .closed := by
  unfold ClassicChannel.receivedState
  split
  · next hopen =>
    rw [hopen.2]
    decide
  · rfl

theorem settled_none_iff (channel : ClassicChannel) (peerMtu : UInt16)
    (agreement : Option ErtmOption) :
    channel.settled peerMtu none = channel.settled peerMtu (some agreement) ↔
      Reconfirmed channel agreement := by
  cases agreement with
  | none =>
    simp only [ClassicChannel.settled, ClassicChannel.configuration, Configuration.mk.injEq,
      true_and]
    constructor
    · rintro ⟨hreceived, hstate⟩
      exact ⟨(receivedState_closed channel).mp hstate.symm, hreceived, nofun⟩
    · intro h
      exact ⟨h.received, ((receivedState_closed channel).mpr h.closed).symm⟩
  | some parameters =>
    simp only [ClassicChannel.settled, ClassicChannel.configuration, Configuration.mk.injEq,
      true_and]
    constructor
    · rintro ⟨hmps, hfcs, hengine, hreceived, hstate⟩
      refine ⟨(receivedState_closed channel).mp hstate.symm, hreceived, ?_⟩
      rintro _ ⟨⟩
      exact ⟨hmps, hfcs, hengine⟩
    · intro h
      obtain ⟨hmps, hfcs, hengine⟩ := h.same parameters rfl
      exact ⟨hmps, hfcs, hengine, h.received, ((receivedState_closed channel).mpr h.closed).symm⟩

theorem agreed_some {spec : ChannelSpec} {peerErtm : Option ErtmOption} {peerFcs : Option Bool}
    {agreement : Option ErtmOption} (hagreed : agreed spec peerErtm peerFcs = some agreement) :
    agreement = peerErtm ∧ (agreement.isSome ↔ spec.ertmSpec.isSome) := by
  unfold agreed at hagreed
  cases hspec : spec.ertmSpec with
  | none =>
    cases peerErtm with
    | none =>
      simp only [hspec] at hagreed
      split at hagreed
      · cases hagreed
      · rw [← Option.some.inj hagreed]
        simp
    | some parameters => simp [hspec] at hagreed
  | some ertm =>
    cases peerErtm with
    | none => simp [hspec] at hagreed
    | some parameters =>
      simp only [hspec] at hagreed
      split at hagreed
      · rw [← Option.some.inj hagreed]
        simp
      · cases hagreed

/-- The last request alone asks for what all options together ask for, or for nothing
    that the channel does not have already. -/
def LastDecides (channel : ClassicChannel) (options last : List ConfigurationOption) : Prop :=
  agreed channel.spec (lastOf ertm? options) (lastOf fcs? options) =
      agreed channel.spec (lastOf ertm? last) (lastOf fcs? last) ∨
    (agreed channel.spec (lastOf ertm? last) (lastOf fcs? last) = none ∧ ∃ agreement,
      agreed channel.spec (lastOf ertm? options) (lastOf fcs? options) = some agreement ∧
        Reconfirmed channel agreement) ∨
    (agreed channel.spec (lastOf ertm? options) (lastOf fcs? options) = none ∧ ∃ agreement,
      agreed channel.spec (lastOf ertm? last) (lastOf fcs? last) = some agreement ∧
        Reconfirmed channel agreement)

/-- The last request settles the channel as all options would just when it decides. -/
theorem settled_eq_iff (peerMtu : UInt16)
    {last : List ConfigurationOption}
    (hoptions : ∀ option ∈ options, acceptable channel.mode option = true)
    (hlast : ∀ option ∈ last, acceptable channel.mode option = true) :
    channel.settled peerMtu (agreed channel.spec (lastOf ertm? last) (lastOf fcs? last)) =
        channel.settled peerMtu (agreed channel.spec (lastOf ertm? options) (lastOf fcs? options)) ↔
      LastDecides channel options last := by
  unfold LastDecides
  cases hwhole : agreed channel.spec (lastOf ertm? options) (lastOf fcs? options) with
  | none =>
    cases hpart : agreed channel.spec (lastOf ertm? last) (lastOf fcs? last) with
    | none => simp
    | some agreement =>
      rw [eq_comm, settled_none_iff]
      simp
  | some agreement =>
    cases hpart : agreed channel.spec (lastOf ertm? last) (lastOf fcs? last) with
    | none =>
      rw [settled_none_iff]
      simp
    | some other =>
      obtain ⟨hwholeErtm, hwholeSome⟩ := agreed_some hwhole
      obtain ⟨hpartErtm, hpartSome⟩ := agreed_some hpart
      simp only [reduceCtorEq, false_and, or_false, Option.some.injEq]
      constructor
      · intro hsettled
        match agreement, other with
        | none, none => rfl
        | none, some parameters =>
          exact absurd (hwholeSome.mpr (hpartSome.mp rfl)) (by decide)
        | some parameters, none =>
          exact absurd (hpartSome.mpr (hwholeSome.mp rfl)) (by decide)
        | some parameters, some others =>
          -- the mode is the one of the channel, and the engine keeps the rest
          obtain ⟨ertm, hertm⟩ := Option.isSome_iff_exists.mp (hwholeSome.mp rfl)
          have hmode : ∀ {found : ErtmOption}, found.acceptable channel.mode = true →
              found.mode = expectedMode channel.mode := by
            intro found hfound
            rw [ErtmOption.acceptable, Bool.and_eq_true] at hfound
            exact of_decide_eq_true hfound.1
          have hfirst := hmode (acceptable_lastOf hoptions hwholeErtm.symm)
          have hsecond := hmode (acceptable_lastOf hlast hpartErtm.symm)
          have hengine := congrArg Configuration.engine hsettled
          simp only [ClassicChannel.settled, hertm, Option.map_some, Option.some.injEq, ertmConfig,
            Ertm.ErtmConfig.mk.injEq, true_and, and_true] at hengine
          obtain ⟨hmps, hwindow, hretransmissions⟩ := hengine
          apply congrArg some
          obtain ⟨mode, window, retransmissions, mps⟩ := parameters
          simp only at hfirst hmps hwindow hretransmissions
          rw [hfirst, ← hsecond, ← hmps, ← hwindow, ← hretransmissions]
      · intro hsame
        rw [hsame]

/-- **Continuation.**  Valid options that are sent in several requests leave the channel
    in the configuration that one request leaves it in exactly when the last of the
    requests decides. -/
theorem continuation_transparent_iff (hchannel : manager.channels[localCid]? = some channel)
    (hmade : channel.WellMade) (first : List ConfigurePart) (last : ConfigurePart)
    (hfirst : ∀ part ∈ first, part.flags &&& 1 ≠ 0) (hlast : last.flags &&& 1 = 0)
    (hvalid : ∀ part ∈ first ++ [last], ∀ option ∈ part.options,
      acceptable channel.mode option = true) (identifier : UInt8) :
    (deliver manager localCid (first ++ [last])).channels[localCid]?.map
        ClassicChannel.configuration =
      (manager.onConfigureRequest identifier localCid 0
        ((first ++ [last]).flatMap (·.encoded))).state.channels[localCid]?.map
          ClassicChannel.configuration ↔
    LastDecides channel ((first ++ [last]).flatMap (·.options)) last.options := by
  have hall : ∀ option ∈ (first ++ [last]).flatMap (·.options),
      acceptable channel.mode option = true := by
    intro option hoption
    obtain ⟨part, hpart, hoption⟩ := List.mem_flatMap.mp hoption
    exact hvalid part hpart option hoption
  have hdecode : ∀ parts : List ConfigurePart,
      decodeConfigurationOptions (parts.flatMap (·.encoded)) = .ok (parts.flatMap (·.options)) := by
    intro parts
    induction parts with
    | nil => rfl
    | cons part parts ih => exact L2cap.decodeConfigurationOptions_append part.decodes ih
  -- one request
  obtain ⟨hok, hwhole⟩ := onConfigureOptions_complete hmade hall
    (show (0 : UInt16) &&& 1 = 0 by decide)
  have hone := onConfigureRequest_channel hchannel (hdecode (first ++ [last])) identifier 0
  rw [if_pos hok] at hone
  -- several requests
  obtain ⟨next, hnext, hcontinued⟩ := deliver_continued first hchannel fun part hpart =>
    ⟨hfirst part hpart, hvalid part (List.mem_append_left _ hpart)⟩
  have hlastOptions : ∀ option ∈ last.options, acceptable channel.mode option = true :=
    hvalid last (List.mem_append_right _ (List.mem_singleton_self last))
  obtain ⟨hok, hpart⟩ := onConfigureOptions_complete (hcontinued.wellMade hmade)
    (by rw [hcontinued.mode]; exact hlastOptions) hlast
  have hseveral := onConfigureRequest_channel hnext last.decodes last.identifier last.flags
  rw [if_pos hok] at hseveral
  have hdeliver : deliver manager localCid (first ++ [last]) =
      ((deliver manager localCid first).onConfigureRequest last.identifier localCid last.flags
        last.encoded).state := List.foldl_append ..
  have hmtu : (lastOf mtu? last.options).getD next.peerMtu =
      (lastOf mtu? ((first ++ [last]).flatMap (·.options))).getD channel.peerMtu := by
    rw [hcontinued.peerMtu, List.flatMap_append, List.flatMap_singleton, lastOf_append, getD_or]
  rw [hdeliver, hseveral, hone, Option.map_some, Option.map_some, Option.some.injEq, hpart, hwhole,
    hcontinued.settled, hcontinued.spec, hmtu]
  exact settled_eq_iff _ hall hlastOptions

/-- A retransmission option with a window of 8 and an MPS of 256. -/
def smallWindow : Bytes := [4, 9, 3, 8, 1, 0, 0, 0, 0, 0, 1]

def mtuPart : ConfigurePart where
  identifier := 1
  flags := 1
  encoded := [1, 2, 100, 0]
  options := [⟨1, false, [100, 0]⟩]
  decodes := by decide

def windowPart (flags : UInt16) : ConfigurePart where
  identifier := 2
  flags := flags
  encoded := smallWindow
  options := [⟨4, false, [3, 8, 1, 0, 0, 0, 0, 0, 1]⟩]
  decodes := by decide

/-- An MTU option may be sent in front. -/
theorem mtu_in_front_transparent :
    (deliver (withChannel (.ertm {})) 0x40 [mtuPart, windowPart 0]).channels[(0x40 : UInt16)]?.map
        ClassicChannel.configuration =
      ((withChannel (.ertm {})).onConfigureRequest 1 0x40 0
        ([1, 2, 100, 0] ++ smallWindow)).state.channels[(0x40 : UInt16)]?.map
          ClassicChannel.configuration :=
  (continuation_transparent_iff (withChannel_channel _)
    (wellMade_newIncoming valid_default _ _ _)
    [mtuPart] (windowPart 0) (by decide) (by decide) (by decide) 1).mpr (.inl (by decide))

/-- A retransmission option in front is forgotten, and the channel is closed. -/
theorem window_in_front_forgotten :
    (deliver (withChannel (.ertm {})) 0x40
        [windowPart 1, { mtuPart with flags := 0 }]).channels[(0x40 : UInt16)]?.map
          ClassicChannel.configuration ≠
      ((withChannel (.ertm {})).onConfigureRequest 1 0x40 0
        (smallWindow ++ [1, 2, 100, 0])).state.channels[(0x40 : UInt16)]?.map
          ClassicChannel.configuration := by
  decide

end Bumble.Classic
