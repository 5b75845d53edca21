import PStream.Protocol
import PStream.Lib.Trace

/-!
# Opening packets: no downgrade of the encryption level

`cryptoSetupServer.Open` and `cryptoSetupClient.Open` try the keys they hold, forward-secure
first, then secure, then the null key, and return the level of the key that opened the packet.
What each key makes of a packet is left open: a run is any sequence of `Open` calls, each with any
answer of every key, interleaved with the handshake installing the secure and the forward-secure
key in any order.

* The server falls through from a key that fails to the next one until it has opened a packet with
  that key (`receivedForwardSecurePacket`, `receivedSecurePacket`); the client returns the
  forward-secure key's error as soon as it has that key.
* `Open_noDowngrade`: on both sides, every run from a new setup returns the levels of the packets
  it opens in an order where `EncryptionSecure` is never followed by `EncryptionUnencrypted`, and
  `EncryptionForwardSecure` only by itself.  The flags are the monitor of `Trace.pairwise_outputs`:
  a key once used has been installed and stays, and a key with its flag set no longer falls
  through.

The channel operations of the server's first forward-secure packet are left out: they wait for
and announce the end of the handshake and change no key or flag.
-/

set_option autoImplicit false

namespace PStream

namespace Handshake

/-- What `Open` returns: the opened payload and its level, or the error of the key tried last. -/
abbrev OpenResult := Except String (List UInt8 × EncryptionLevel)

/-- No level is followed by a weaker one where the handshake forbids it. -/
def NoDowngrade (a b : EncryptionLevel) : Prop :=
  (a = .Secure → b ≠ .Unencrypted) ∧ (a = .ForwardSecure → b = .ForwardSecure)

variable {K : Type}

/-- One stage of `Open` with the key `aead`, whose flag `received` says a packet was opened with
it: `some` where the stage returns (the result and the new flag), `none` where it falls through
to the next key. -/
def openStage (aeadOpen : K → Except String (List UInt8)) (level : EncryptionLevel)
    (aead : Option K) (received : Bool) : Option (OpenResult × Bool) :=
  match aead with
  | none => none
  | some aead =>
    match aeadOpen aead with
    | .ok res => some (.ok (res, level), true)
    | .error err => if received then some (.error err, received) else none

/-- The last stage: the null key opens the packet or its error is returned. -/
def openNull (aeadOpen : K → Except String (List UInt8)) (nullAEAD : K) : OpenResult :=
  match aeadOpen nullAEAD with
  | .error err => .error err
  | .ok res => .ok (res, .Unencrypted)

/-! ## The server -/

/-- The keys and flags of a `cryptoSetupServer` that `Open` reads. -/
structure CryptoSetupServer (K : Type) where
  nullAEAD : K
  secureAEAD : Option K
  forwardSecureAEAD : Option K
  receivedForwardSecurePacket : Bool
  receivedSecurePacket : Bool

/-- A call on the server: `Open` of a packet, with what each key makes of it, or the handshake
installing a key. -/
inductive ServerEvent (K : Type) where
  | Open (aeadOpen : K → Except String (List UInt8))
  | installSecureAEAD (aead : K)
  | installForwardSecureAEAD (aead : K)

namespace CryptoSetupServer

/-- `NewCryptoSetup`: only the null key. -/
def new (nullAEAD : K) : CryptoSetupServer K :=
  { nullAEAD, secureAEAD := none, forwardSecureAEAD := none,
    receivedForwardSecurePacket := false, receivedSecurePacket := false }

/-- `cryptoSetupServer.Open`. -/
def Open (aeadOpen : K → Except String (List UInt8)) (h : CryptoSetupServer K) :
    OpenResult × CryptoSetupServer K :=
  match openStage aeadOpen .ForwardSecure h.forwardSecureAEAD h.receivedForwardSecurePacket with
  | some (r, received) => (r, { h with receivedForwardSecurePacket := received })
  | none =>
    match openStage aeadOpen .Secure h.secureAEAD h.receivedSecurePacket with
    | some (r, received) => (r, { h with receivedSecurePacket := received })
    | none => (openNull aeadOpen h.nullAEAD, h)

/-- One call, and the level it returned if it opened a packet. -/
def step (h : CryptoSetupServer K) : ServerEvent K → Option EncryptionLevel × CryptoSetupServer K
  | .Open aeadOpen => ((h.Open aeadOpen).1.toOption.map Prod.snd, (h.Open aeadOpen).2)
  | .installSecureAEAD aead => (none, { h with secureAEAD := some aead })
  | .installForwardSecureAEAD aead => (none, { h with forwardSecureAEAD := some aead })

end CryptoSetupServer

/-! ## The client -/

/-- The keys and the flag of a `cryptoSetupClient` that `Open` reads. -/
structure CryptoSetupClient (K : Type) where
  nullAEAD : K
  secureAEAD : Option K
  forwardSecureAEAD : Option K
  receivedSecurePacket : Bool

/-- A call on the client. -/
inductive ClientEvent (K : Type) where
  | Open (aeadOpen : K → Except String (List UInt8))
  | installSecureAEAD (aead : K)
  | installForwardSecureAEAD (aead : K)

namespace CryptoSetupClient

/-- `NewCryptoSetupClient`: only the null key. -/
def new (nullAEAD : K) : CryptoSetupClient K :=
  { nullAEAD, secureAEAD := none, forwardSecureAEAD := none, receivedSecurePacket := false }

/-- `cryptoSetupClient.Open`: a forward-secure key, once there, answers alone. -/
def Open (aeadOpen : K → Except String (List UInt8)) (h : CryptoSetupClient K) :
    OpenResult × CryptoSetupClient K :=
  match h.forwardSecureAEAD with
  | some aead =>
    match aeadOpen aead with
    | .ok data => (.ok (data, .ForwardSecure), h)
    | .error err => (.error err, h)
  | none =>
    match openStage aeadOpen .Secure h.secureAEAD h.receivedSecurePacket with
    | some (r, received) => (r, { h with receivedSecurePacket := received })
    | none => (openNull aeadOpen h.nullAEAD, h)

def step (h : CryptoSetupClient K) : ClientEvent K → Option EncryptionLevel × CryptoSetupClient K
  | .Open aeadOpen => ((h.Open aeadOpen).1.toOption.map Prod.snd, (h.Open aeadOpen).2)
  | .installSecureAEAD aead => (none, { h with secureAEAD := some aead })
  | .installForwardSecureAEAD aead => (none, { h with forwardSecureAEAD := some aead })

end CryptoSetupClient

/-! ## A stage, a key and its flag -/

section Stage

variable {aeadOpen : K → Except String (List UInt8)} {level : EncryptionLevel} {aead : Option K}
  {received : Bool} {r : OpenResult} {received' : Bool}

/-- A stage returns only with its key installed, never clears its flag, and opens a packet only
at its own level, setting its flag. -/
theorem openStage_spec (h : openStage aeadOpen level aead received = some (r, received')) :
    aead.isSome ∧ (received = true → received' = true) ∧
      ∀ l, r.toOption.map Prod.snd = some l → l = level ∧ received' = true := by
  unfold openStage at h
  split at h
  · cases h
  · split at h
    · cases h
      exact ⟨rfl, fun _ => rfl, fun l hl => by simp [Except.toOption] at hl; exact ⟨hl.symm, rfl⟩⟩
    · split_ifs at h with hrec
      cases h
      exact ⟨rfl, fun h => h, fun l hl => by simp [Except.toOption] at hl⟩

/-- A stage with its key installed and its flag set does not fall through. -/
theorem openStage_ne_none (hk : aead.isSome) (hrec : received = true) :
    openStage aeadOpen level aead received ≠ none := by
  obtain ⟨k, rfl⟩ := Option.isSome_iff_exists.mp hk
  simp only [openStage]
  cases aeadOpen k <;> simp [hrec]

theorem openNull_level {nullAEAD : K} {l : EncryptionLevel}
    (h : (openNull aeadOpen nullAEAD).toOption.map Prod.snd = some l) : l = .Unencrypted := by
  unfold openNull at h
  split at h <;> simp [Except.toOption] at h
  exact h.symm

end Stage

/-! ## The server's monitor -/

namespace CryptoSetupServer

/-- A flag is set only with its key installed. -/
def Inv (h : CryptoSetupServer K) : Prop :=
  (h.receivedSecurePacket = true → h.secureAEAD.isSome) ∧
    (h.receivedForwardSecurePacket = true → h.forwardSecureAEAD.isSome)

/-- The server remembers having returned a level by its flag. -/
def Armed : EncryptionLevel → CryptoSetupServer K → Prop
  | .Secure, h => h.receivedSecurePacket = true
  | .ForwardSecure, h => h.receivedForwardSecurePacket = true
  | _, _ => True

variable (aeadOpen : K → Except String (List UInt8)) (h : CryptoSetupServer K)

/-- `Open` returns from the forward-secure stage, from the secure one after the first fell
through, or from the null key after both did. -/
theorem Open_cases :
    (∃ r received, openStage aeadOpen .ForwardSecure h.forwardSecureAEAD
          h.receivedForwardSecurePacket = some (r, received) ∧
        h.Open aeadOpen = (r, { h with receivedForwardSecurePacket := received })) ∨
      (openStage aeadOpen .ForwardSecure h.forwardSecureAEAD h.receivedForwardSecurePacket = none ∧
        ∃ r received, openStage aeadOpen .Secure h.secureAEAD h.receivedSecurePacket =
            some (r, received) ∧ h.Open aeadOpen = (r, { h with receivedSecurePacket := received })) ∨
      (openStage aeadOpen .ForwardSecure h.forwardSecureAEAD h.receivedForwardSecurePacket = none ∧
        openStage aeadOpen .Secure h.secureAEAD h.receivedSecurePacket = none ∧
        h.Open aeadOpen = (openNull aeadOpen h.nullAEAD, h)) := by
  unfold Open
  split
  · rename_i r received hfs
    exact .inl ⟨r, received, hfs, rfl⟩
  · rename_i hfs
    split
    · rename_i r received hs
      exact .inr (.inl ⟨hfs, r, received, hs, rfl⟩)
    · rename_i hs
      exact .inr (.inr ⟨hfs, hs, rfl⟩)

variable {aeadOpen h}

theorem Inv.Open (hi : h.Inv) : (h.Open aeadOpen).2.Inv := by
  rcases Open_cases aeadOpen h with ⟨r, rec, hst, heq⟩ | ⟨-, r, rec, hst, heq⟩ | ⟨-, -, heq⟩ <;>
    rw [heq]
  · exact ⟨hi.1, fun _ => (openStage_spec hst).1⟩
  · exact ⟨fun _ => (openStage_spec hst).1, hi.2⟩
  · exact hi

theorem Armed.Open {l : EncryptionLevel} (ha : Armed l h) : Armed l (h.Open aeadOpen).2 := by
  rcases Open_cases aeadOpen h with ⟨r, rec, hst, heq⟩ | ⟨-, r, rec, hst, heq⟩ | ⟨-, -, heq⟩ <;>
    rw [heq]
  · cases l with
    | ForwardSecure => exact (openStage_spec hst).2.1 ha
    | _ => exact ha
  · cases l with
    | Secure => exact (openStage_spec hst).2.1 ha
    | _ => exact ha
  · exact ha

/-- What `Open` returns arms the monitor at that level. -/
theorem armed_Open {l : EncryptionLevel}
    (hl : (h.Open aeadOpen).1.toOption.map Prod.snd = some l) : Armed l (h.Open aeadOpen).2 := by
  rcases Open_cases aeadOpen h with ⟨r, rec, hst, heq⟩ | ⟨-, r, rec, hst, heq⟩ | ⟨-, -, heq⟩ <;>
    rw [heq] at hl ⊢
  · obtain ⟨rfl, hrec⟩ := (openStage_spec hst).2.2 l hl
    exact hrec
  · obtain ⟨rfl, hrec⟩ := (openStage_spec hst).2.2 l hl
    exact hrec
  · rw [openNull_level hl]
    trivial

/-- Once a level is remembered, `Open` returns nothing weaker: a stage whose flag is set does not
fall through. -/
theorem noDowngrade_Open (hi : h.Inv) {l l' : EncryptionLevel} (ha : Armed l h)
    (hl : (h.Open aeadOpen).1.toOption.map Prod.snd = some l') : NoDowngrade l l' := by
  rcases Open_cases aeadOpen h with ⟨r, rec, hst, heq⟩ | ⟨hfs, r, rec, hst, heq⟩ | ⟨hfs, hs, heq⟩ <;>
    rw [heq] at hl
  · -- the forward-secure key opened it
    rw [((openStage_spec hst).2.2 l' hl).1]
    exact ⟨fun _ => nofun, fun _ => rfl⟩
  · -- the secure key opened it: the forward-secure flag was not set
    rw [((openStage_spec hst).2.2 l' hl).1]
    refine ⟨fun _ => nofun, fun hfsl => ?_⟩
    subst hfsl
    exact absurd hfs (openStage_ne_none (hi.2 ha) ha)
  · -- the null key opened it: neither flag was set
    rw [openNull_level hl]
    refine ⟨fun hsec => ?_, fun hfsl => ?_⟩
    · subst hsec
      exact absurd hs (openStage_ne_none (hi.1 ha) ha)
    · subst hfsl
      exact absurd hfs (openStage_ne_none (hi.2 ha) ha)

theorem Inv.step (hi : h.Inv) : ∀ e : ServerEvent K, (h.step e).2.Inv
  | .Open _ => hi.Open
  | .installSecureAEAD _ => ⟨fun _ => rfl, hi.2⟩
  | .installForwardSecureAEAD _ => ⟨hi.1, fun _ => rfl⟩

theorem Armed.step {l : EncryptionLevel} (ha : Armed l h) : ∀ e : ServerEvent K, Armed l (h.step e).2
  | .Open _ => ha.Open
  | .installSecureAEAD _ => by cases l <;> exact ha
  | .installForwardSecureAEAD _ => by cases l <;> exact ha

end CryptoSetupServer

/-! ## The client's monitor -/

namespace CryptoSetupClient

/-- The secure flag is set only with the secure key installed. -/
def Inv (h : CryptoSetupClient K) : Prop := h.receivedSecurePacket = true → h.secureAEAD.isSome

/-- The client remembers a secure packet by its flag, and a forward-secure one by the key. -/
def Armed : EncryptionLevel → CryptoSetupClient K → Prop
  | .Secure, h => h.receivedSecurePacket = true
  | .ForwardSecure, h => h.forwardSecureAEAD.isSome
  | _, _ => True

variable (aeadOpen : K → Except String (List UInt8)) (h : CryptoSetupClient K)

/-- `Open` answers with the forward-secure key alone once it is there, and otherwise as the
server's secure and null stages do. -/
theorem Open_cases :
    (h.forwardSecureAEAD.isSome ∧ (h.Open aeadOpen).2 = h ∧
        ∀ l, (h.Open aeadOpen).1.toOption.map Prod.snd = some l → l = .ForwardSecure) ∨
      (h.forwardSecureAEAD = none ∧
        ∃ r received, openStage aeadOpen .Secure h.secureAEAD h.receivedSecurePacket =
            some (r, received) ∧ h.Open aeadOpen = (r, { h with receivedSecurePacket := received })) ∨
      (h.forwardSecureAEAD = none ∧ openStage aeadOpen .Secure h.secureAEAD h.receivedSecurePacket = none ∧
        h.Open aeadOpen = (openNull aeadOpen h.nullAEAD, h)) := by
  unfold Open
  split
  · rename_i k hk
    refine .inl ⟨by rw [hk]; rfl, ?_, fun l hl => ?_⟩
    · split <;> rfl
    · split at hl <;> simp [Except.toOption] at hl
      exact hl.symm
  · rename_i hfs
    split
    · rename_i r received hs
      exact .inr (.inl ⟨hfs, r, received, hs, rfl⟩)
    · rename_i hs
      exact .inr (.inr ⟨hfs, hs, rfl⟩)

variable {aeadOpen h}

theorem Inv.Open (hi : h.Inv) : (h.Open aeadOpen).2.Inv := by
  rcases Open_cases aeadOpen h with ⟨-, heq, -⟩ | ⟨-, r, rec, hst, heq⟩ | ⟨-, -, heq⟩
  · rw [heq]
    exact hi
  · rw [heq]
    exact fun _ => (openStage_spec hst).1
  · rw [heq]
    exact hi

theorem Armed.Open {l : EncryptionLevel} (ha : Armed l h) : Armed l (h.Open aeadOpen).2 := by
  rcases Open_cases aeadOpen h with ⟨-, heq, -⟩ | ⟨-, r, rec, hst, heq⟩ | ⟨-, -, heq⟩ <;> rw [heq]
  · exact ha
  · cases l with
    | Secure => exact (openStage_spec hst).2.1 ha
    | _ => exact ha
  · exact ha

theorem armed_Open {l : EncryptionLevel}
    (hl : (h.Open aeadOpen).1.toOption.map Prod.snd = some l) : Armed l (h.Open aeadOpen).2 := by
  rcases Open_cases aeadOpen h with ⟨hk, heq, hfs⟩ | ⟨-, r, rec, hst, heq⟩ | ⟨-, -, heq⟩
  · rw [hfs l hl, heq]
    exact hk
  · rw [heq] at hl ⊢
    obtain ⟨rfl, hrec⟩ := (openStage_spec hst).2.2 l hl
    exact hrec
  · rw [heq] at hl ⊢
    rw [openNull_level hl]
    trivial

theorem noDowngrade_Open (hi : h.Inv) {l l' : EncryptionLevel} (ha : Armed l h)
    (hl : (h.Open aeadOpen).1.toOption.map Prod.snd = some l') : NoDowngrade l l' := by
  rcases Open_cases aeadOpen h with ⟨-, -, hfs⟩ | ⟨hfs, r, rec, hst, heq⟩ | ⟨hfs, hs, heq⟩
  · -- the forward-secure key answered
    rw [hfs l' hl]
    exact ⟨fun _ => nofun, fun _ => rfl⟩
  · -- the secure key opened it: there was no forward-secure key
    rw [heq] at hl
    rw [((openStage_spec hst).2.2 l' hl).1]
    refine ⟨fun _ => nofun, fun hfsl => ?_⟩
    subst hfsl
    simp [Armed, hfs] at ha
  · -- the null key opened it: no forward-secure key, and the secure flag was not set
    rw [heq] at hl
    rw [openNull_level hl]
    refine ⟨fun hsec => ?_, fun hfsl => ?_⟩
    · subst hsec
      exact absurd hs (openStage_ne_none (hi ha) ha)
    · subst hfsl
      simp [Armed, hfs] at ha

theorem Inv.step (hi : h.Inv) : ∀ e : ClientEvent K, (h.step e).2.Inv
  | .Open _ => hi.Open
  | .installSecureAEAD _ => fun _ => rfl
  | .installForwardSecureAEAD _ => hi

theorem Armed.step {l : EncryptionLevel} (ha : Armed l h) : ∀ e : ClientEvent K, Armed l (h.step e).2
  | .Open _ => ha.Open
  | .installSecureAEAD _ => by cases l <;> exact ha
  | .installForwardSecureAEAD _ => by cases l <;> first | exact ha | rfl

/-- Once the client holds a forward-secure key, every packet it opens is forward-secure, whether
or not it has opened one yet. -/
theorem forwardSecure_outputs (es : List (ClientEvent K)) (hi : h.Inv)
    (hk : h.forwardSecureAEAD.isSome) : ∀ l ∈ Trace.outputs step h es, l = .ForwardSecure := by
  intro l hl
  have hrel := Trace.rel_outputs_of_armed (R := NoDowngrade) Inv Armed
    (fun h e hi => hi.step e) (fun h e l _ ha => ha.step e) (fun h e l l' hi ha hl => ?_)
    es h hi (l := .ForwardSecure) hk l hl
  · exact hrel.2 rfl
  · rcases e with aeadOpen | _ | _
    · exact noDowngrade_Open hi ha hl
    all_goals nomatch hl

end CryptoSetupClient

/-! ## Every run -/

/-- Neither side downgrades: in every run from a new setup, whatever each key makes of each packet
and wherever the handshake installs its keys, a packet opened at `EncryptionSecure` is never
followed by one opened at `EncryptionUnencrypted`, and one opened at `EncryptionForwardSecure` only
by packets opened at `EncryptionForwardSecure`.  On the client, once the run has installed the
forward-secure key, every packet opened after is opened at `EncryptionForwardSecure`. -/
theorem Open_noDowngrade (nullAEAD : K) (server : List (ServerEvent K))
    (client : List (ClientEvent K)) :
    (Trace.outputs CryptoSetupServer.step (CryptoSetupServer.new nullAEAD) server).Pairwise
        NoDowngrade ∧
      (Trace.outputs CryptoSetupClient.step (CryptoSetupClient.new nullAEAD) client).Pairwise
        NoDowngrade ∧
      ∀ n, (Trace.final CryptoSetupClient.step (CryptoSetupClient.new nullAEAD)
          (client.take n)).forwardSecureAEAD.isSome →
        ∀ l ∈ Trace.outputs CryptoSetupClient.step
          (Trace.final CryptoSetupClient.step (CryptoSetupClient.new nullAEAD) (client.take n))
          (client.drop n), l = .ForwardSecure := by
  refine ⟨?_, ?_, fun n hk => ?_⟩
  · refine Trace.pairwise_outputs CryptoSetupServer.Inv CryptoSetupServer.Armed
      (fun h e hi => hi.step e) (fun h e l _ ha => ha.step e) ?_ ?_ server _ ⟨nofun, nofun⟩
    · rintro h (aeadOpen | _ | _) l l' hi ha hl
      · exact CryptoSetupServer.noDowngrade_Open hi ha hl
      -- the handshake's steps return no level
      all_goals nomatch hl
    · rintro h (aeadOpen | _ | _) l hi hl
      · exact CryptoSetupServer.armed_Open hl
      all_goals nomatch hl
  · refine Trace.pairwise_outputs CryptoSetupClient.Inv CryptoSetupClient.Armed
      (fun h e hi => hi.step e) (fun h e l _ ha => ha.step e) ?_ ?_ client _ nofun
    · rintro h (aeadOpen | _ | _) l l' hi ha hl
      · exact CryptoSetupClient.noDowngrade_Open hi ha hl
      all_goals nomatch hl
    · rintro h (aeadOpen | _ | _) l hi hl
      · exact CryptoSetupClient.armed_Open hl
      all_goals nomatch hl
  · -- the key change: what the rest of the run opens, from where the key was installed
    refine CryptoSetupClient.forwardSecure_outputs (client.drop n) ?_ hk
    exact Trace.final_inv CryptoSetupClient.step (fun h e hi => hi.step e) _ _ nofun

end Handshake

end PStream
