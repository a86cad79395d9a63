/-!
# Sas — nonce commitments and the pairing code

Byte strings of a fixed width, the initiator's commitment to its nonce and the six-digit code derived from both sides'
transcripts.  SHA-256 and HKDF are those of the crates the program links: parameters of the model.
-/
namespace OpenLogi
namespace Flow

/-- A byte array of width `n`. -/
abbrev Bytes (n : Nat) := { bytes : List UInt8 // bytes.length = n }

structure FixedBytesError where
  expected : Nat
  actual : Nat
  deriving DecidableEq

def fixed (n : Nat) (value : List UInt8) : Except FixedBytesError (Bytes n) :=
  if h : value.length = n then .ok ⟨value, h⟩ else .error ⟨n, value.length⟩

theorem fixed_ok {n : Nat} {value : List UInt8} {bytes : Bytes n} (h : fixed n value = .ok bytes) :
    value = bytes.val := by
  unfold fixed at h
  split at h
  · cases h
    rfl
  · cases h

@[simp] theorem fixed_val {n : Nat} (bytes : Bytes n) : fixed n bytes.val = .ok bytes := dif_pos bytes.property

abbrev PublicKey := Bytes 32

abbrev PairingNonce := Bytes 16

abbrev NonceCommitment := Bytes 32

abbrev HelloDigest := Bytes 32

/-- The digests of the linked crates: SHA-256, and the first four bytes of HKDF-SHA256. -/
structure Crypto where
  sha256 : List UInt8 → Bytes 32
  hkdf : (salt ikm info : List UInt8) → Bytes 4

def commitDomain : List UInt8 := "openlogi-flow-pair-commit-v1".toUTF8.data.toList

def sasInfo : List UInt8 := "openlogi-flow-sas-v1".toUTF8.data.toList

variable (crypto : Crypto)

/-- Commits the initiator to `nonce` for this ordered pair of identities. -/
def commit (initiator responder : PublicKey) (nonce : PairingNonce) : NonceCommitment :=
  crypto.sha256 (commitDomain ++ initiator.val ++ responder.val ++ nonce.val)

/-- Whether `nonce` opens the commitment. -/
def opensTo (commitment : NonceCommitment) (initiator responder : PublicKey) (nonce : PairingNonce) : Bool :=
  decide (commit crypto initiator responder nonce = commitment)

/-- Everything one role contributes to the pairing code. -/
structure PairingParty where
  key : PublicKey
  hello : HelloDigest
  nonce : PairingNonce
  deriving DecidableEq

structure SasCode where
  value : Nat
  deriving DecidableEq

/-- Derives the code in role order. -/
def deriveSas (initiator responder : PairingParty) : SasCode :=
  let salt := initiator.hello.val ++ responder.hello.val
  let ikm := initiator.key.val ++ responder.key.val ++ initiator.nonce.val ++ responder.nonce.val
  let output := crypto.hkdf salt ikm sasInfo
  ⟨output.val.foldl (fun n byte => n * 256 + byte.toNat) 0 % 1000000⟩

@[simp] theorem opensTo_commit (initiator responder : PublicKey) (nonce : PairingNonce) :
    opensTo crypto (commit crypto initiator responder nonce) initiator responder nonce = true := by
  simp [opensTo]

/-! ## One transcript -/

/-- The key of 32 bytes `byte`. -/
def sampleKey (byte : UInt8) : PublicKey := ⟨List.replicate 32 byte, List.length_replicate⟩

def sampleNonce (byte : UInt8) : PairingNonce := ⟨List.replicate 16 byte, List.length_replicate⟩

/-- The digests of the transcript of keys 1 and 2, hellos 3 and 4 and nonces 5 and 6, as the crates compute them. -/
def sampleCrypto : Crypto where
  sha256 _ :=
    ⟨[29, 188, 244, 213, 11, 84, 99, 79, 147, 212, 175, 12, 166, 190, 23, 112, 159, 21, 152, 1, 18, 189, 110, 15, 140,
      196, 220, 188, 59, 245, 242, 40], rfl⟩
  hkdf _ _ _ := ⟨[109, 201, 77, 127], rfl⟩

end Flow
end OpenLogi
