import Bumble.DeviceKeys

/-!
# Encrypting again with a bond (`bumble-host/src/lib.rs`, `bumble-smp/src/distribution.rs`)

Two devices that have paired without Secure Connections meet again.  The central
reads one key from its store and the peripheral another: each role has its own key,
and the two names under which a side stores them do not say which role of the new
connection will read which.
-/

namespace Bumble.Smp.KeyDistributionSession

variable {config config' : KeyDistributionConfig} {session : KeyDistributionSession}

theorem markEncrypted_of_begun (hstate : session.state ≠ .waitEncryption) :
    session.markEncrypted = session := if_pos hstate

theorem process_of_failed (hstate : session.state = .failed) (pdu : SmpPdu) :
    session.process pdu = session := if_pos hstate

theorem process_of_waiting (hstate : session.state = .waitEncryption) (pdu : SmpPdu) :
    (session.process pdu).state = .failed := by
  unfold process
  rw [if_neg (by rw [hstate]; simp), if_pos (by rw [hstate]; simp)]
  rfl

/-- The sides keep pace, or one of them has failed. -/
def PairedOrFailed (config config' : KeyDistributionConfig)
    (net : Net (Log KeyDistributionSession SmpPdu) SmpPdu) : Prop :=
  Paired config config' net ∨ net.left.state.state = .failed ∨ net.right.state.state = .failed

theorem PairedOrFailed.swap {net : Net (Log KeyDistributionSession SmpPdu) SmpPdu}
    (hnet : PairedOrFailed config config' net) : PairedOrFailed config' config net.swap := by
  rcases hnet with hpaired | hleft | hright
  · exact .inl hpaired.swap
  · exact .inr (.inr hleft)
  · exact .inr (.inl hright)

theorem failed_stepLeft {net : Net (Log KeyDistributionSession SmpPdu) SmpPdu}
    (hfailed : net.left.state.state = .failed) (move : Move Unit) :
    (net.stepLeft distributionParty.logged move).left.state.state = .failed := by
  have hkeeps : ∀ log event, log.state.state = .failed →
      (distributionParty.logged.apply log event).state.state = .failed := by
    intro log event hlog
    cases event with
    | call input =>
      change log.state.markEncrypted.state = .failed
      rw [markEncrypted_of_begun (by rw [hlog]; simp), hlog]
    | poll =>
      simp only [Party.apply, Party.logged, distributionParty, pollOutbound]
      cases log.state.outbound <;> exact hlog
    | receive pdu =>
      change (log.state.process pdu).state = .failed
      rw [process_of_failed hlog, hlog]
  rcases Net.stepLeft_left net move with hsame | ⟨event, hevent⟩
  · rw [hsame]
    exact hfailed
  · rw [hevent]
    exact hkeeps _ event hfailed

theorem Paired.stepLeft_disabled {net : Net (Log KeyDistributionSession SmpPdu) SmpPdu}
    (hnet : Paired config config' net) {move : Move Unit} (hmove : net.Lossless move)
    (hdisabled : ¬ Enabled net.forget move) :
    net.stepLeft distributionParty.logged move = net ∨
      (net.stepLeft distributionParty.logged move).left.state.state = .failed := by
  cases move with
  | call input =>
    left
    have hsame : net.left.state.markEncrypted = net.left.state := markEncrypted_of_begun hdisabled
    rw [Net.stepLeft_call]
    change { net with left := { net.left with state := net.left.state.markEncrypted } } = net
    rw [hsame]
  | poll =>
    left
    have hempty : net.left.state.outbound = [] := not_not.mp hdisabled
    refine Net.stepLeft_poll_none ?_
    simp [Party.logged, distributionParty, pollOutbound, hempty]
  | deliver =>
    cases hlink : net.toLeft with
    | nil => exact .inl (Net.stepLeft_deliver_nil hlink)
    | cons pdu rest =>
      right
      -- the peer has sent a key, so it has been told of the encryption
      have hpeer : net.right.state.state ≠ .waitEncryption := by
        intro hwaiting
        have hsent := hnet.meet.left
        cases hnet.right with
        | waiting _ _ hqueued =>
          rw [(List.append_eq_nil_iff.mp hqueued).1, hlink] at hsent
          simp at hsent
        | begun rest' _ hsession _ =>
          rw [hsession, after_state] at hwaiting
          split at hwaiting <;> cases hwaiting
      have hwaiting : net.left.state.state = .waitEncryption := by
        by_contra hbegun
        have hlink : net.toLeft ≠ [] := by
          rw [hlink]
          exact List.cons_ne_nil _ _
        exact hdisabled ⟨hlink, hbegun, hpeer⟩
      rw [Net.stepLeft_deliver_cons hlink]
      exact process_of_waiting hwaiting pdu
  | lose index => exact hmove.elim

theorem PairedOrFailed.stepLeft {net : Net (Log KeyDistributionSession SmpPdu) SmpPdu}
    (hfacing : Facing config config') (hnet : PairedOrFailed config config' net) {move : Move Unit}
    (hmove : net.Lossless move) :
    PairedOrFailed config config' (net.stepLeft distributionParty.logged move) := by
  rcases hnet with hpaired | hleft | hright
  · by_cases henabled : Enabled net.forget move
    · exact .inl (hpaired.stepLeft hfacing henabled).1
    · rcases hpaired.stepLeft_disabled hmove henabled with hsame | hfailed
      · rw [hsame]
        exact .inl hpaired
      · exact .inr (.inl hfailed)
  · exact .inr (.inl (failed_stepLeft hleft move))
  · right
    right
    rw [Net.stepLeft_right]
    exact hright

/-- Both sides of a run that has come to its end have everything, in whatever order they
were told of the encryption, were polled and received. -/
theorem done_of_reachable (hfacing : Facing config config')
    {net : Net KeyDistributionSession SmpPdu}
    (hreach : Net.Reachable distributionParty Net.Lossless
      ⟨new config, new config', [], [], 0⟩ net)
    (hleft : net.left.state = .complete) (hright : net.right.state = .complete) :
    Done config config' net.left ∧ Done config' config net.right := by
  have hforgotten : Net.Reachable distributionParty Net.Lossless
      (Net.forget ⟨.start SmpPdu (new config), .start SmpPdu (new config'), [], [], 0⟩) net :=
        hreach
  obtain ⟨logs, ⟨moves, hmoves, rfl⟩, rfl⟩ := Net.reachable_logged hforgotten
  have hkeeps : ∀ {logs : Net (Log KeyDistributionSession SmpPdu) SmpPdu},
      PairedOrFailed config config' logs → ∀ moves,
      Net.Admissible distributionParty.logged (fun net => Net.Lossless net.forget) logs moves →
      PairedOrFailed config config' (logs.run distributionParty.logged moves) := by
    intro logs hlogs moves
    induction moves generalizing logs with
    | nil => exact fun _ => hlogs
    | cons action moves ih =>
      rintro ⟨hfirst, hrest⟩
      refine ih ?_ hrest
      obtain ⟨side, move⟩ := action
      cases side with
      | left => exact hlogs.stepLeft hfacing hfirst
      | right => exact (hlogs.swap.stepLeft hfacing.symm hfirst).swap
  rcases hkeeps (.inl (paired_start config config')) moves hmoves with hpaired | hfailed | hfailed
  · exact ⟨hpaired.left.done hleft, hpaired.right.done hright⟩
  · exact absurd (hleft.symm.trans hfailed) (by simp)
  · exact absurd (hright.symm.trans hfailed) (by simp)

end Bumble.Smp.KeyDistributionSession

namespace Bumble.Host

open Bumble.Smp

/-! ## 2. The keys that are read -/

def Reads (ε : Type) (key : Key) (longTermKey : Octets 16) : Prop :=
  ∃ parameters, (encryptionParameters key : Except (DeviceKeyStoreError ε) _) = .ok parameters ∧
    parameters.1 = longTermKey

theorem reads_legacyKey (ε : Type) (session : KeyDistributionSession) (value : Octets 16)
    (ediv : UInt16) (rand : Octets 8) : Reads ε (session.legacyKey value ediv rand) value :=
  ⟨_, encryptionParameters_legacyKey session value ediv rand, rfl⟩

theorem Reads.unique {ε : Type} {key : Key} {first second : Octets 16} (hfirst : Reads ε key first)
    (hsecond : Reads ε key second) : first = second := by
  obtain ⟨parameters, hread, rfl⟩ := hfirst
  obtain ⟨parameters', hread', rfl⟩ := hsecond
  rw [hread] at hread'
  cases hread'
  rfl

/-- The keys of the two roles, as a side of a legacy pairing keeps them. -/
structure RoleKeys (ε : Type) (keys : PairingKeys) (forCentral forPeripheral : Octets 16) :
    Prop where
  ltk : keys.ltk = none
  central : ∃ key, keys.ltkCentral = some key ∧ Reads ε key forCentral
  peripheral : ∃ key, keys.ltkPeripheral = some key ∧ Reads ε key forPeripheral

/-- **Each side of a legacy pairing** keeps the responder's key for the central and the
initiator's for the peripheral. -/
theorem roleKeys_of_done {κ : Type} (ε : Type) (prim : Primitives κ)
    {config config' : KeyDistributionConfig} {session : KeyDistributionSession}
    (hdone : session.Done config config') (hlegacy : config.secureConnections = false)
    (hlegacy' : config'.secureConnections = false)
    (hown : config.localFlags.contains .encryptionKey)
    (hpeer : config'.localFlags.contains .encryptionKey) :
    ∃ keys, session.pairingKeys prim = some keys ∧
      (config.role = .initiator → RoleKeys ε keys config'.localLtk config.localLtk) ∧
      (config.role = .responder → RoleKeys ε keys config.localLtk config'.localLtk) := by
  refine ⟨_, KeyDistributionSession.pairingKeys_of_complete prim hdone.state, ?_⟩
  have hownKey : session.ownLegacyKey = some
      (session.legacyKey config.localLtk config.localKeys.ediv config.localKeys.rand) := by
    rw [KeyDistributionSession.ownLegacyKey, hdone.config, if_pos hown]
  have hpeerKey : session.peerLegacyKey = some
      (session.legacyKey config'.localLtk config'.localKeys.ediv config'.localKeys.rand) := by
    rw [hdone.peerLegacyKey, hlegacy', if_pos (by rw [hpeer]; rfl)]
  rw [hdone.config, hlegacy, hownKey, hpeerKey]
  constructor
  · intro hrole
    rw [hrole]
    exact ⟨rfl, ⟨_, rfl, reads_legacyKey ε session _ _ _⟩,
      ⟨_, rfl, reads_legacyKey ε session _ _ _⟩⟩
  · intro hrole
    rw [hrole]
    exact ⟨rfl, ⟨_, rfl, reads_legacyKey ε session _ _ _⟩,
      ⟨_, rfl, reads_legacyKey ε session _ _ _⟩⟩

/-- The key that a store gives to a role: one from Secure Connections that it has kept
from before hides the legacy keys. -/
def Found (ε : Type) (older : Option Key) (legacy found : Octets 16) : Prop :=
  match older with
  | some key => Reads ε key found
  | none => legacy = found

theorem RoleKeys.found {σ ε : Type} {keyStore : KeyStore σ ε} {device : BondDevice σ}
    {handle : UInt16} {connection : LeConnectionInfo} {older keys : PairingKeys}
    {forCentral forPeripheral : Octets 16} (hkeys : RoleKeys ε keys forCentral forPeripheral)
    (hconnection : device.leConnections handle = some connection)
    (hget : keyStore.get device.store connection.peerAddress.toName =
      .ok (some (mergeKeys older keys))) (found : Octets 16) :
    (∃ parameters, device.storedEncryptionParameters keyStore handle = .ok parameters ∧
        parameters.1 = found) ↔
      Found ε older.ltk (if connection.role = roleCentral then forCentral else forPeripheral)
        found := by
  have hselected : ∀ key, selectedKey connection.role (mergeKeys older keys) = some key →
      ((∃ parameters, device.storedEncryptionParameters keyStore handle = .ok parameters ∧
        parameters.1 = found) ↔ Reads ε key found) := by
    intro key hkey
    rw [BondDevice.storedEncryptionParameters_of_get keyStore hconnection hget hkey]
    exact Iff.rfl
  obtain ⟨central, hcentral, hcentralReads⟩ := hkeys.central
  obtain ⟨peripheral, hperipheral, hperipheralReads⟩ := hkeys.peripheral
  have hselects : selectedKey connection.role (mergeKeys older keys) = older.ltk.or
      (some (if connection.role = roleCentral then central else peripheral)) := by
    unfold selectedKey mergeKeys
    rw [hkeys.ltk, hcentral, hperipheral, Option.none_or, Option.some_or, Option.some_or]
    split <;> rfl
  rw [hselects] at hselected
  unfold Found
  cases holder : older.ltk with
  | some key => exact hselected key (by rw [holder, Option.some_or])
  | none =>
    have hread := hselected _ (by rw [holder, Option.none_or])
    rw [hread]
    dsimp only
    by_cases hrole : connection.role = roleCentral
    · rw [if_pos hrole, if_pos hrole]
      exact ⟨hcentralReads.unique, fun hsame => hsame ▸ hcentralReads⟩
    · rw [if_neg hrole, if_neg hrole]
      exact ⟨hperipheralReads.unique, fun hsame => hsame ▸ hperipheralReads⟩

/-! ## 3. Meeting again -/

/-- **The bonds can be used.**  Whenever the two devices, with these stores, are connected
under the addresses they have stored, each as the central can start the encryption and
the other answers with the same key. -/
def BondReuse {σ σ' ε : Type} (keyStore : KeyStore σ ε) (keyStore' : KeyStore σ' ε)
    (session session' : KeyDistributionSession) (store : σ) (store' : σ') : Prop :=
  ∀ (device : BondDevice σ) (device' : BondDevice σ') (handle handle' : UInt16)
    (connection connection' : LeConnectionInfo),
    device.store = store → device'.store = store' →
    device.leConnections handle = some connection →
    device'.leConnections handle' = some connection' →
    connection.peerAddress.toName = session.peerAddress.toName →
    connection'.peerAddress.toName = session'.peerAddress.toName →
    (connection.role = roleCentral → connection'.role = rolePeripheral →
        BondDevice.Encrypts keyStore keyStore' device device' handle handle') ∧
      (connection.role = rolePeripheral → connection'.role = roleCentral →
        BondDevice.Encrypts keyStore' keyStore device' device handle' handle)

def HoldsOne (ε : Type) (older : Option Key) (ltk ltk' key : Octets 16) : Prop :=
  Found ε older ltk key ∧ Found ε older ltk' key

theorem HoldsOne.comm {ε : Type} {older : Option Key} {ltk ltk' key : Octets 16} :
    HoldsOne ε older ltk ltk' key ↔ HoldsOne ε older ltk' ltk key := And.comm

theorem Found.unique {ε : Type} {older : Option Key} {ltk found found' : Octets 16}
    (hfound : Found ε older ltk found) (hfound' : Found ε older ltk found') : found = found' := by
  cases older with
  | some key => exact Reads.unique hfound hfound'
  | none => exact hfound.symm.trans hfound'

theorem Found.of_key {ε : Type} {older : Key} {ltk ltk' found : Octets 16}
    (hfound : Found ε (some older) ltk found) : Found ε (some older) ltk' found := hfound

theorem crossed_iff {ε : Type} {older older' : Option Key} {forCentral forPeripheral : Octets 16} :
    ((∃ key, Found ε older forCentral key ∧ Found ε older' forPeripheral key) ∧
        ∃ key, Found ε older' forCentral key ∧ Found ε older forPeripheral key) ↔
      ∃ key, HoldsOne ε older forCentral forPeripheral key ∧
        HoldsOne ε older' forCentral forPeripheral key := by
  constructor
  · rintro ⟨⟨key, hcentral, hperipheral⟩, key', hcentral', hperipheral'⟩
    have hsame : key = key' := by
      cases older with
      | some older => exact hcentral.of_key.unique hperipheral'
      | none =>
        cases older' with
        | some older' => exact hperipheral.of_key.unique hcentral'
        | none => exact hcentral.symm.trans hcentral'
    subst hsame
    exact ⟨key, ⟨hcentral, hperipheral'⟩, hcentral', hperipheral⟩
  · rintro ⟨key, ⟨hcentral, hperipheral⟩, hcentral', hperipheral'⟩
    exact ⟨⟨key, hcentral, hperipheral'⟩, key, hcentral', hperipheral⟩

section Meeting

variable {σ σ' ε : Type} {keyStore : KeyStore σ ε} {keyStore' : KeyStore σ' ε}

theorem RoleKeys.encrypts_iff {device : BondDevice σ} {device' : BondDevice σ'}
    {handle handle' : UInt16} {connection connection' : LeConnectionInfo}
    {older older' keys keys' : PairingKeys} {forCentral forPeripheral : Octets 16}
    (hkeys : RoleKeys ε keys forCentral forPeripheral)
    (hkeys' : RoleKeys ε keys' forCentral forPeripheral)
    (hconnection : device.leConnections handle = some connection)
    (hconnection' : device'.leConnections handle' = some connection')
    (hget : keyStore.get device.store connection.peerAddress.toName =
      .ok (some (mergeKeys older keys)))
    (hget' : keyStore'.get device'.store connection'.peerAddress.toName =
      .ok (some (mergeKeys older' keys')))
    (hrole : connection.role = roleCentral) (hrole' : connection'.role = rolePeripheral) :
    BondDevice.Encrypts keyStore keyStore' device device' handle handle' ↔
      ∃ key, Found ε older.ltk forCentral key ∧ Found ε older'.ltk forPeripheral key := by
  have hother : ¬ connection'.role = roleCentral := by
    rw [hrole']
    decide
  have hfound := hkeys.found hconnection hget
  have hfound' := hkeys'.found hconnection' hget'
  rw [if_pos hrole] at hfound
  rw [if_neg hother] at hfound'
  rw [BondDevice.encrypts_iff keyStore hconnection hrole]
  constructor
  · rintro ⟨own, answered, hown, hanswered, hsame⟩
    exact ⟨own.1, (hfound own.1).mp ⟨own, hown, rfl⟩,
      (hfound' own.1).mp ⟨answered, hanswered, hsame⟩⟩
  · rintro ⟨key, hkey, hkey'⟩
    obtain ⟨own, hown, hfirst⟩ := (hfound key).mpr hkey
    obtain ⟨answered, hanswered, hsecond⟩ := (hfound' key).mpr hkey'
    exact ⟨own, answered, hown, hanswered, hsecond.trans hfirst.symm⟩

theorem RoleKeys.reuse_iff {session session' : KeyDistributionSession} {store : σ} {store' : σ'}
    {older older' keys keys' : PairingKeys} {forCentral forPeripheral : Octets 16}
    (hkeys : RoleKeys ε keys forCentral forPeripheral)
    (hkeys' : RoleKeys ε keys' forCentral forPeripheral)
    (hget : keyStore.get store session.peerAddress.toName = .ok (some (mergeKeys older keys)))
    (hget' : keyStore'.get store' session'.peerAddress.toName =
      .ok (some (mergeKeys older' keys'))) :
    BondReuse keyStore keyStore' session session' store store' ↔
      ∃ key, HoldsOne ε older.ltk forCentral forPeripheral key ∧
        HoldsOne ε older'.ltk forCentral forPeripheral key := by
  rw [← crossed_iff]
  constructor
  · intro hreuse
    let device (role : UInt8) : BondDevice σ := ⟨fun _ => some ⟨role, session.peerAddress⟩, store⟩
    let device' (role : UInt8) : BondDevice σ' :=
      ⟨fun _ => some ⟨role, session'.peerAddress⟩, store'⟩
    constructor
    · exact (hkeys.encrypts_iff hkeys' rfl rfl hget hget' rfl rfl).mp
        ((hreuse (device roleCentral) (device' rolePeripheral) 0 0 _ _ rfl rfl rfl rfl rfl rfl).1
          rfl rfl)
    · exact (hkeys'.encrypts_iff hkeys rfl rfl hget' hget rfl rfl).mp
        ((hreuse (device rolePeripheral) (device' roleCentral) 0 0 _ _ rfl rfl rfl rfl rfl rfl).2
          rfl rfl)
  · rintro ⟨hforward, hback⟩ device device' handle handle' connection connection' rfl rfl
      hconnection hconnection' hname hname'
    rw [← hname] at hget
    rw [← hname'] at hget'
    constructor
    · intro hrole hrole'
      exact (hkeys.encrypts_iff hkeys' hconnection hconnection' hget hget' hrole hrole').mpr
        hforward
    · intro hrole hrole'
      exact (hkeys'.encrypts_iff hkeys hconnection' hconnection hget' hget hrole' hrole).mpr hback

theorem get_of_storeBond {κ : Type} {prim : Primitives κ} {kept : σ → String → PairingKeys}
    (hreads : keyStore.ReadsBack kept) {session : KeyDistributionSession} {keys : PairingKeys}
    {store later : σ} (hkeys : session.pairingKeys prim = some keys)
    (hstored : session.storeBond prim keyStore.update store = .ok later true) :
    keyStore.get later session.peerAddress.toName =
      .ok (some (mergeKeys (kept store session.peerAddress.toName) keys)) := by
  unfold KeyDistributionSession.storeBond at hstored
  rw [hkeys] at hstored
  dsimp only at hstored
  cases hupdate : keyStore.update store session.peerAddress.toName keys with
  | mk next result =>
    rw [hupdate] at hstored
    cases result with
    | ok value =>
      cases hstored
      exact hreads hupdate
    | error error => nomatch congrArg Outcome.result hstored

/-- After a completed legacy pairing the bond works again just when both stores lead
    to one key. -/
theorem reuse_iff_of_done {κ : Type} (prim : Primitives κ)
    {kept : σ → String → PairingKeys} (hreads : keyStore.ReadsBack kept)
    {kept' : σ' → String → PairingKeys} (hreads' : keyStore'.ReadsBack kept')
    {config config' : KeyDistributionConfig}
    (hfacing : KeyDistributionSession.Facing config config')
    (hlegacy : config.secureConnections = false)
    (hinitiator : config.initiatorKeys.contains .encryptionKey)
    (hresponder : config.responderKeys.contains .encryptionKey)
    {session session' : KeyDistributionSession} (hdone : session.Done config config')
    (hdone' : session'.Done config' config) {store later : σ} {store' later' : σ'}
    (hstored : session.storeBond prim keyStore.update store = .ok later true)
    (hstored' : session'.storeBond prim keyStore'.update store' = .ok later' true) :
    BondReuse keyStore keyStore' session session' later later' ↔
      ∃ key, HoldsOne ε (kept store session.peerAddress.toName).ltk
          config.localLtk config'.localLtk key ∧
        HoldsOne ε (kept' store' session'.peerAddress.toName).ltk
          config.localLtk config'.localLtk key := by
  have hlegacy' : config'.secureConnections = false := hfacing.secureConnections.trans hlegacy
  have hown : config.localFlags.contains .encryptionKey := by
    unfold KeyDistributionConfig.localFlags
    split <;> assumption
  have hpeer : config'.localFlags.contains .encryptionKey := by
    unfold KeyDistributionConfig.localFlags
    rw [hfacing.initiatorKeys, hfacing.responderKeys]
    split <;> assumption
  obtain ⟨keys, hkeys, hasInitiator, hasResponder⟩ :=
    roleKeys_of_done ε prim hdone hlegacy hlegacy' hown hpeer
  obtain ⟨keys', hkeys', hasInitiator', hasResponder'⟩ :=
    roleKeys_of_done ε prim hdone' hlegacy' hlegacy hpeer hown
  have hget := get_of_storeBond hreads hkeys hstored
  have hget' := get_of_storeBond hreads' hkeys' hstored'
  have hrole := hfacing.role
  cases hside : config.role with
  | initiator =>
    have hside' : config'.role = .responder := by
      cases hside' : config'.role with
      | initiator => exact absurd (hside'.trans hside.symm) hrole
      | responder => rfl
    rw [(hasInitiator hside).reuse_iff (hasResponder' hside') hget hget']
    exact exists_congr fun key => and_congr HoldsOne.comm HoldsOne.comm
  | responder =>
    have hside' : config'.role = .initiator := by
      cases hside' : config'.role with
      | initiator => rfl
      | responder => exact absurd (hside'.trans hside.symm) hrole
    exact (hasResponder hside).reuse_iff (hasInitiator' hside') hget hget'

/-- **A legacy bond can be used again** only if all that the two stores hold for the
present peer is one key: the long term keys of the two sides, unless a key from Secure
Connections has been kept from before. -/
theorem legacyBond_reuse_iff {κ : Type} (prim : Primitives κ)
    {kept : σ → String → PairingKeys} (hreads : keyStore.ReadsBack kept)
    {kept' : σ' → String → PairingKeys} (hreads' : keyStore'.ReadsBack kept')
    {config config' : KeyDistributionConfig}
    (hfacing : KeyDistributionSession.Facing config config')
    (hlegacy : config.secureConnections = false)
    (hinitiator : config.initiatorKeys.contains .encryptionKey)
    (hresponder : config.responderKeys.contains .encryptionKey)
    {net : Net KeyDistributionSession SmpPdu}
    (hreach : Net.Reachable KeyDistributionSession.distributionParty Net.Lossless
      ⟨.new config, .new config', [], [], 0⟩ net)
    (hleft : net.left.state = .complete) (hright : net.right.state = .complete)
    {store later : σ} {store' later' : σ'}
    (hstored : net.left.storeBond prim keyStore.update store = .ok later true)
    (hstored' : net.right.storeBond prim keyStore'.update store' = .ok later' true) :
    BondReuse keyStore keyStore' net.left net.right later later' ↔
      ∃ key, HoldsOne ε (kept store net.left.peerAddress.toName).ltk
          config.localLtk config'.localLtk key ∧
        HoldsOne ε (kept' store' net.right.peerAddress.toName).ltk
          config.localLtk config'.localLtk key := by
  obtain ⟨hdone, hdone'⟩ :=
    KeyDistributionSession.done_of_reachable hfacing hreach hleft hright
  exact reuse_iff_of_done prim hreads hreads' hfacing hlegacy hinitiator hresponder hdone hdone'
    hstored hstored'

end Meeting

/-! ### Two exchanges -/

/-- Both sides are told of the encryption, then the responder's five keys cross, then the
initiator's. -/
def testExchange : List (Side × Move Unit) :=
  [(.left, .call ()), (.right, .call ())] ++
    List.replicate 5 (.right, .poll) ++ List.replicate 5 (.left, .deliver) ++
    List.replicate 5 (.left, .poll) ++ List.replicate 5 (.right, .deliver)

def testInitiatorConfig : KeyDistributionConfig :=
  KeyDistributionSession.testDistribution .initiator false .all .all

def testResponderConfig : KeyDistributionConfig :=
  KeyDistributionSession.testDistribution .responder false .all .all

/-- A responder that distributes the long term key of its peer. -/
def testMirrorConfig : KeyDistributionConfig :=
  { testResponderConfig with
    localKeys := { testResponderConfig.localKeys with ltk := testInitiatorConfig.localKeys.ltk } }

def testNet (config config' : KeyDistributionConfig) : Net KeyDistributionSession SmpPdu :=
  Net.run KeyDistributionSession.distributionParty ⟨.new config, .new config', [], [], 0⟩
    testExchange

def testStored (session : KeyDistributionSession) : String → Option PairingKeys :=
  (session.storeBond testPrimitives memoryKeyStore.update fun _ => none).state

/-- With one key for both roles the bond can be used. -/
theorem legacyBond_reuse_oneKey :
    BondReuse memoryKeyStore memoryKeyStore
      (testNet testInitiatorConfig testMirrorConfig).left
      (testNet testInitiatorConfig testMirrorConfig).right
      (testStored (testNet testInitiatorConfig testMirrorConfig).left)
      (testStored (testNet testInitiatorConfig testMirrorConfig).right) := by
  have hfacing : KeyDistributionSession.Facing testInitiatorConfig testMirrorConfig :=
    ⟨by decide, rfl, rfl, rfl, rfl, rfl, rfl⟩
  have hreach : Net.Reachable KeyDistributionSession.distributionParty Net.Lossless
      ⟨.new testInitiatorConfig, .new testMirrorConfig, [], [], 0⟩
      (testNet testInitiatorConfig testMirrorConfig) := ⟨testExchange, by decide, rfl⟩
  have hsame : testMirrorConfig.localLtk = testInitiatorConfig.localLtk := by decide
  exact (legacyBond_reuse_iff testPrimitives memoryKeyStore_readsBack memoryKeyStore_readsBack
    hfacing rfl (by decide) (by decide) hreach (by decide) (by decide) rfl rfl).mpr
    ⟨testInitiatorConfig.localLtk, ⟨rfl, hsame⟩, rfl, hsame⟩

/-- With a key for each role the central asks for the responder's key, and the peripheral
answers with the initiator's. -/
theorem legacyBond_reuse_fails :
    ∃ net : Net KeyDistributionSession SmpPdu,
      Net.Reachable KeyDistributionSession.distributionParty Net.Lossless
        ⟨.new testInitiatorConfig, .new testResponderConfig, [], [], 0⟩ net ∧
      net.left.state = .complete ∧ net.right.state = .complete ∧
      net.left.storeBond testPrimitives memoryKeyStore.update (fun _ => none) =
        .ok (testStored net.left) true ∧
      net.right.storeBond testPrimitives memoryKeyStore.update (fun _ => none) =
        .ok (testStored net.right) true ∧
      ¬ BondReuse memoryKeyStore memoryKeyStore net.left net.right (testStored net.left)
        (testStored net.right) := by
  have hreach : Net.Reachable KeyDistributionSession.distributionParty Net.Lossless
      ⟨.new testInitiatorConfig, .new testResponderConfig, [], [], 0⟩
      (testNet testInitiatorConfig testResponderConfig) := ⟨testExchange, by decide, rfl⟩
  have hfacing := KeyDistributionSession.test_facing false .all .all
  have hleft : (testNet testInitiatorConfig testResponderConfig).left.state = .complete := by
    decide
  have hright : (testNet testInitiatorConfig testResponderConfig).right.state = .complete := by
    decide
  refine ⟨_, hreach, hleft, hright, rfl, rfl, ?_⟩
  obtain ⟨hdone, hdone'⟩ := KeyDistributionSession.done_of_reachable hfacing hreach hleft hright
  intro hreuse
  obtain ⟨key, ⟨hown, hpeer⟩, -⟩ := (reuse_iff_of_done testPrimitives memoryKeyStore_readsBack
    memoryKeyStore_readsBack hfacing rfl (by decide) (by decide) hdone hdone' rfl rfl).mp hreuse
  have hsame : testInitiatorConfig.localLtk = testResponderConfig.localLtk :=
    hown.trans hpeer.symm
  exact absurd hsame (by decide)

end Bumble.Host
