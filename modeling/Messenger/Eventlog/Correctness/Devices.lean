import Messenger.Lib.Run
import Messenger.Eventlog.Devices

/-!
# `Eventlog.Correctness.Devices` — removal from a device set is for ever

Over any sequence of `AcceptSet` calls from an empty ledger, each record follows the one before it
(`DeviceRecord.Follows`), and following is transitive. So what holds between two neighbours holds
between any two moments of the history: devices leave by being tombstoned, tombstones and the
watermark only grow, and a replaced set is left behind.

A set is recognised by its digest. That a replaced set is refused when it is presented again
therefore needs that the hash did not collide on what was presented (`E2ee.Collisionless`); nothing
else does.
-/

namespace Messenger.Eventlog

open Lib Identity Devices
open E2ee (Bundle Collisionless)

/-- One call of the device ledger. -/
structure DeviceCall where
  endpointID : EndpointID
  bundles : List Bundle
  now : Time
  disk : Medium
  deriving DecidableEq, Repr

def DeviceCall.serve (c : Crypto) (d : Devices) (call : DeviceCall) : Except Failure E2ee.Succession × Devices :=
  d.acceptSet c call.disk call.endpointID call.bundles call.now

/-- The ledger after one call. -/
def Devices.step (c : Crypto) (d : Devices) (call : DeviceCall) : Devices := (call.serve c d).2

variable {c : Crypto} {d : Devices} {call : DeviceCall} {endpointID : EndpointID}

/-! ## Following -/

theorem DeviceRecord.Follows.refl (r : DeviceRecord) : r.Follows r :=
  ⟨fun _ h => .inl h, List.prefix_rfl, Nat.le_refl _, .inl rfl⟩

variable {r r' : DeviceRecord} {sets : List (List Bundle)}

/-- A set that was left behind stays behind. -/
theorem DeviceRecord.Behind.follows {r'' : DeviceRecord} (h : r.Behind r') (hfol : r'.Follows r'') :
    r.Behind r'' := by
  rcases h with ⟨device, hdev, hto⟩ | hnewest
  · exact .inl ⟨device, hdev, hfol.tombstones.subset hto⟩
  · exact .inr (lt_of_lt_of_le hnewest hfol.newest)

theorem DeviceRecord.Follows.trans {r'' : DeviceRecord} (h : r.Follows r') (h' : r'.Follows r'') : r.Follows r'' := by
  refine ⟨?_, h.tombstones.trans h'.tombstones, h.newest.trans h'.newest, ?_⟩
  · intro device hdev
    rcases h.devices device hdev with hkt | hgo
    · exact h'.devices device hkt
    · exact .inr (h'.tombstones.subset hgo)
  rcases h.replaced with rfl | hbeh
  · exact h'.replaced
  · exact .inr (hbeh.follows h')

/-- An endpoint's record is kept or followed. -/
def Devices.Continues (endpointID : EndpointID) (d d' : Devices) : Prop :=
  ∀ r, lookup endpointID d = some r → ∃ r', lookup endpointID d' = some r' ∧ r.Follows r'

theorem Devices.Continues.refl (d : Devices) : d.Continues endpointID d := fun r hr => ⟨r, hr, .refl r⟩

theorem Devices.Continues.trans {d d' d'' : Devices} (h : d.Continues endpointID d')
    (h' : d'.Continues endpointID d'') : d.Continues endpointID d'' := by
  intro r hr
  obtain ⟨r', hr', hfol⟩ := h r hr
  obtain ⟨r'', hr'', hfollows'⟩ := h' r' hr'
  exact ⟨r'', hr'', hfol.trans hfollows'⟩

/-- The records are those of presented sets. -/
def Devices.Sound (c : Crypto) (sets : List (List Bundle)) (d : Devices) : Prop :=
  ∀ endpointID r, lookup endpointID d = some r → ∃ bundles ∈ sets, r.Sound c endpointID bundles

/-! ## One call -/

theorem Devices.step_continues (d : Devices) (call : DeviceCall) : d.Continues endpointID (step c d call) := by
  unfold step DeviceCall.serve
  rcases acceptSet_cases c call.disk call.endpointID call.bundles call.now d with hsm | ⟨s, record, hjdg, hd, -⟩
  · rw [hsm]
    exact .refl d
  rw [hd]
  intro r hr
  exact Lib.Dir.lookup_insert_retains hr (.refl r) ((judgeSet_record hjdg).2 r)

theorem Devices.step_sound (h : d.Sound c sets) (hcl : call.bundles ∈ sets) : (step c d call).Sound c sets := by
  unfold step DeviceCall.serve
  rcases acceptSet_cases c call.disk call.endpointID call.bundles call.now d with hsm | ⟨s, record, hjdg, hd, -⟩
  · rw [hsm]
    exact h
  · rw [hd]
    exact forall_insert h ⟨call.bundles, hcl, (judgeSet_record hjdg).1⟩

/-- A set that was left behind is refused. -/
theorem Devices.refuses_behind {bundles : List Bundle} (hcollisionless : Collisionless c sets)
    (hbun : bundles ∈ sets) (hsd : r.Sound c endpointID bundles) (hcl : call.bundles ∈ sets)
    (hdig : E2ee.setDigest c call.bundles = .ok r.setDigest) (hrec : lookup call.endpointID d = some r')
    (hdiff : r'.setDigest ≠ r.setDigest) (hbeh : r.Behind r') : ∃ e, (call.serve c d).1 = .error e := by
  suffices href : ∀ s o, d.judgeSet c call.disk call.endpointID call.bundles call.now ≠ .ok (s, o) by
    unfold DeviceCall.serve acceptSet
    cases hjdg : d.judgeSet c call.disk call.endpointID call.bundles call.now with
    | error e => exact ⟨e, rfl⟩
    | ok decision => exact absurd hjdg (href decision.1 decision.2)
  intro s o hjdg
  simp only [judgeSet, seq_ok] at hjdg
  obtain ⟨_, -, found, hrd, succession, hsucceed, -⟩ := hjdg
  obtain ⟨hget, -⟩ := read_ok hrd
  rw [hrec] at hget
  subst hget
  obtain ⟨hsu, hlv, hcases⟩ := E2ee.succeed_ok hsucceed
  -- the presented set has the digest of the set that was replaced, so its devices and its watermark
  have hsm : succession.accepted.digest = r.setDigest := by
    have := (E2ee.summarize_ok hsu).1
    rw [hdig] at this
    exact (Except.ok.inj this).symm
  have hforth := E2ee.summarize_determined hcollisionless hbun hcl hsd.summarizes hsu hsm.symm
  have hback := E2ee.summarize_determined hcollisionless hcl hbun hsu hsd.summarizes hsm
  rcases hbeh with ⟨device, hdev, hto⟩ | hnewest
  · exact hlv device (hforth.1 device hdev) hto
  rcases hcases with ⟨-, hrecord⟩ | ⟨cur, hcur, -, -, hnewer, -⟩
  · exact hdiff ((hrecord r'.summary rfl).symm.trans hsm)
  cases hcur
  have hle : succession.accepted.newestIssuedAt ≤ r.newestIssuedAt := hback.2
  have hge : r'.newestIssuedAt ≤ succession.accepted.newestIssuedAt := hnewer
  omega

/-! ## Runs -/

theorem Devices.run_continues (d : Devices) (calls : List DeviceCall) :
    d.Continues endpointID (run (step c) d calls) :=
  Along.related (R := Continues endpointID) Continues.refl Continues.trans
    (fun d call _ => step_continues d call)
    (Along.of_forall (P := fun _ _ => True) (fun _ _ => trivial) d calls)

theorem Devices.run_sound (c : Crypto) {calls : List DeviceCall}
    (hcs : ∀ call ∈ calls, call.bundles ∈ sets) : Sound c sets (run (step c) ∅ calls) := by
  refine (Along.of_mem hcs ∅).invariant (I := Sound c sets) (fun d call h hcl => step_sound h hcl) ?_
  intro e r hr
  simp at hr

/-- A device that stands revoked has a tombstone. -/
theorem Devices.judge_revoked {disk : Medium} {device : DeviceID} (h : d.judge disk endpointID device = .ok .revoked) :
    ∃ r, lookup endpointID d = some r ∧ r.endpointID = endpointID ∧ device ∈ r.tombstones := by
  obtain ⟨found, hrd, h⟩ := seq_ok.mp h
  obtain ⟨hget, hept⟩ := read_ok hrd
  cases found with
  | none => cases h
  | some r =>
    dsimp only at h
    split_ifs at h with hto hcur
    · exact ⟨r, hget, hept r rfl, hto⟩
    · cases h
    · cases h

theorem Devices.judge_tombstone {disk : Medium} {device : DeviceID} (hdk : disk.readable)
    (hget : lookup endpointID d = some r) (hept : r.endpointID = endpointID)
    (hto : device ∈ r.tombstones) : d.judge disk endpointID device = .ok .revoked := by
  have hrd : d.read disk endpointID = .ok (some r) := by
    refine failIf_then.mpr ⟨not_not.mpr hdk, ?_⟩
    simp only [hget]
    exact failIf_then.mpr ⟨not_not.mpr hept, rfl⟩
  refine seq_ok.mpr ⟨some r, hrd, ?_⟩
  exact if_pos hto

/-- **The history of an endpoint's devices.** From any moment of a run to any later one; `call` is
    the next call. -/
theorem device_history (c : Crypto) (earlier later : List DeviceCall) (call : DeviceCall) :
    let d := run (Devices.step c) ∅ earlier
    let d' := run (Devices.step c) d later
    (∀ endpointID r, AList.lookup endpointID d = some r → ∃ r', AList.lookup endpointID d' = some r' ∧
      (∀ device, device ∈ r.deviceIDs ∨ device ∈ r.tombstones → device ∈ r'.deviceIDs ∨ device ∈ r'.tombstones) ∧
      (∀ device ∈ r.tombstones, device ∈ r'.tombstones) ∧
      (∀ device ∈ r'.tombstones, device ∉ r'.deviceIDs) ∧
      r.newestIssuedAt ≤ r'.newestIssuedAt ∧
      (Collisionless c ((earlier ++ [call]).map DeviceCall.bundles) → call.endpointID = endpointID →
        r'.setDigest ≠ r.setDigest → E2ee.setDigest c call.bundles = .ok r.setDigest →
        ∃ e, (call.serve c d').1 = .error e)) ∧
    (∀ e, (call.serve c d').1 = .error e → Devices.step c d' call = d' ∨ call.disk.written = .unacknowledged) ∧
    (∀ endpointID device disk disk', d.judge disk endpointID device = .ok .revoked → disk'.readable = true →
      d'.judge disk' endpointID device = .ok .revoked) := by
  intro d d'
  have hsound : d'.Sound c ((earlier ++ later).map DeviceCall.bundles) := by
    have hrun : d' = run (step c) ∅ (earlier ++ later) := (run_append _ _ _).symm
    rw [hrun]
    exact run_sound c fun call hcl => List.mem_map.mpr ⟨call, hcl, rfl⟩
  refine ⟨?_, ?_, ?_⟩
  · intro endpointID r hr
    obtain ⟨r', hr', hfol⟩ := run_continues d later r hr
    obtain ⟨_, _, hsound'⟩ := hsound endpointID r' hr'
    refine ⟨r', hr', ?_, fun device h => hfol.tombstones.subset h, ?_, hfol.newest, ?_⟩
    · rintro device (hdev | hto)
      · exact hfol.devices device hdev
      · exact .inr (hfol.tombstones.subset hto)
    · intro device hto hdev
      exact hsound'.live device hdev hto
    rintro hcollisionless rfl hdiff hdig
    have hpresent : ∀ call' ∈ earlier, call'.bundles ∈ (earlier ++ [call]).map DeviceCall.bundles :=
      fun call' hcl => List.mem_map.mpr ⟨call', List.mem_append_left _ hcl, rfl⟩
    obtain ⟨bundles, hbun, hsd⟩ := run_sound c hpresent call.endpointID r hr
    have hcl : call.bundles ∈ (earlier ++ [call]).map DeviceCall.bundles :=
      List.mem_map.mpr ⟨call, List.mem_append_right _ List.mem_cons_self, rfl⟩
    rcases hfol.replaced with rfl | hbeh
    · exact absurd rfl hdiff
    · exact refuses_behind hcollisionless hbun hsd hcl hdig hr' hdiff hbeh
  · intro e he
    unfold step
    unfold DeviceCall.serve at he ⊢
    rcases acceptSet_cases c call.disk call.endpointID call.bundles call.now d' with
      hsm | ⟨s, record, -, -, hok | hwrt⟩
    · exact .inl hsm
    · rw [hok] at he
      cases he
    · exact .inr hwrt
  · intro endpointID device disk disk' hrvk hdk
    obtain ⟨r, hr, -, hto⟩ := judge_revoked hrvk
    obtain ⟨r', hr', hfol⟩ := run_continues d later r hr
    obtain ⟨_, _, hsound'⟩ := hsound endpointID r' hr'
    exact judge_tombstone hdk hr' hsound'.endpoint (hfol.tombstones.subset hto)

/-- A set of one device, issued at 5, after a set of two, issued at 4 and 5: the device that left
    stands revoked. -/
example :
    let c : Crypto := ⟨fun bytes => BitVec.ofNat 256 (bytes.length + 1), fun _ _ _ => true⟩
    let hash := String.ofList (List.replicate 64 'a')
    let bundle (device : BitVec 256) (issuedAt : UInt64) : Bundle :=
      ⟨some ⟨Canon.Field.utf8 "tos", hash, hash⟩, ⟨1⟩, ⟨2⟩, ⟨device⟩, "tos.messaging.e2ee.pqxdh.v1",
        [1], issuedAt, 9, List.replicate 64 0⟩
    (run (step c) ∅ [⟨⟨2⟩, [bundle 1 4, bundle 2 5], 6, {}⟩, ⟨⟨2⟩, [bundle 2 5], 6, {}⟩]).judge {} ⟨2⟩ ⟨1⟩ =
      .ok .revoked := by
  decide +kernel

end Messenger.Eventlog
