import Ombre.Serialization.Base58
import Ombre.Serialization.TxFormat
import Ombre.Core.Blockchain

/-!
# Addresses as text

`get_public_address_as_str`, `get_account_integrated_address_as_str` and
`get_account_address_from_str` of `cryptonote_basic_impl.cpp`. An address is
the `encode_addr` envelope of a prefix, which names the network and the kind of
address, and of the binary blob of the keys: both public keys for a long
address or subaddress, the one key of a "kurz" address, whose spend and view
keys are equal, and the keys and an 8-byte payment id for an integrated
address. The prefixes are the constants of `config<NETTYPE>` in
`cryptonote_config.h`; parsing also accepts the legacy prefixes of long and
integrated addresses.

`parse_binary` reads the blob to its end, so a blob of the wrong length is
refused. `crypto::check_key` and `cn_fast_hash` are parameters. The prefix
`RYO_KURZ_SUBADDRESS_BASE58_PREFIX` is printed but its case is commented out of
the parser, so a subaddress whose two keys are equal is written in a form that
is not read back (`getAccountAddressFromStr_getPublicAddressAsStr`).
-/

namespace Ombre

open Codec BinaryArchive

/-- `account_public_address` -/
structure AccountPublicAddress where
  spendPublicKey : PublicKey
  viewPublicKey : PublicKey
deriving DecidableEq, Inhabited

/-- `kurz_address` -/
structure KurzAddress where
  publicKey : PublicKey
deriving DecidableEq, Inhabited

/-- `integrated_address`; `crypto::hash8` is 8 bytes. -/
structure IntegratedAddress where
  adr : AccountPublicAddress
  paymentId : Pod 8
deriving DecidableEq, Inhabited

/-- `account_public_address::serialize`, reading both keys. -/
def serializeAccountPublicAddress : Reader AccountPublicAddress := do
  let spendPublicKey ← serializePod 32
  let viewPublicKey ← serializePod 32
  pure ⟨spendPublicKey, viewPublicKey⟩

/-- The blob of an `account_public_address`. -/
def writeAccountPublicAddress (adr : AccountPublicAddress) : List UInt8 :=
  adr.spendPublicKey.bytes ++ adr.viewPublicKey.bytes

/-- `kurz_address::serialize`, reading. -/
def serializeKurzAddress : Reader KurzAddress := KurzAddress.mk <$> serializePod 32

/-- The blob of a `kurz_address`. -/
def writeKurzAddress (kadr : KurzAddress) : List UInt8 := kadr.publicKey.bytes

/-- `integrated_address::serialize`, reading. -/
def serializeIntegratedAddress : Reader IntegratedAddress := do
  let adr ← serializeAccountPublicAddress
  let paymentId ← serializePod 8
  pure ⟨adr, paymentId⟩

/-- The blob of an `integrated_address`. -/
def writeIntegratedAddress (iadr : IntegratedAddress) : List UInt8 :=
  writeAccountPublicAddress iadr.adr ++ iadr.paymentId.bytes

/-- The address prefixes of `config<NETTYPE>`. They are distinct, which is what
lets the parser tell the kinds of address apart; the list puts each prefix
before those the parser compares it with first. -/
structure AddressPrefixes where
  legacyLongAddress : UInt64
  legacyLongIntegratedAddress : UInt64
  ryoKurzSubaddress : UInt64
  ryoKurzAddress : UInt64
  ryoLongAddress : UInt64
  ryoLongIntegratedAddress : UInt64
  ryoLongSubaddress : UInt64
  nodup : [ryoKurzSubaddress, ryoKurzAddress, ryoLongSubaddress, ryoLongIntegratedAddress,
    legacyLongIntegratedAddress, ryoLongAddress, legacyLongAddress].Nodup

/-- `config<MAINNET>`, `config<TESTNET>`, `config<STAGENET>` -/
def addressPrefixes : NetworkType → AddressPrefixes
  | .mainnet => ⟨0xe1f54, 0xe9f54, 0xcd18fd299, 0x11cfd299, 0x8a20fd299, 0xf11afd299, 0x120fd299,
      by decide⟩
  | .testnet => ⟨0x37751a, 0x34f51a, 0x3fa0, 0x7420, 0x7d1f, 0x9f, 0x1a1, by decide⟩
  | .stagenet => ⟨0x37751a, 0x34f51a, 0xdc2192, 0x1fc2192, 0xd1c2192, 0x1fbbe192, 0xe3c2192,
      by decide⟩

/-- The prefixes `get_account_address_from_str` accepts. -/
def AddressPrefixes.accepted (cfg : AddressPrefixes) : List UInt64 :=
  [cfg.ryoLongAddress, cfg.legacyLongAddress, cfg.ryoLongIntegratedAddress,
    cfg.legacyLongIntegratedAddress, cfg.ryoLongSubaddress, cfg.ryoKurzAddress]

/-- The prefixes the two printers write. -/
def AddressPrefixes.written (cfg : AddressPrefixes) : List UInt64 :=
  [cfg.ryoKurzSubaddress, cfg.ryoKurzAddress, cfg.ryoLongAddress, cfg.ryoLongIntegratedAddress,
    cfg.ryoLongSubaddress]

/-- No network accepts a prefix another network writes. -/
theorem not_mem_accepted_of_mem_written {nettype nettype' : NetworkType} (hne : nettype ≠ nettype')
    {addressPrefix : UInt64} (h : addressPrefix ∈ (addressPrefixes nettype).written) :
    addressPrefix ∉ (addressPrefixes nettype').accepted := by
  -- six pairs of networks; in each, the five written prefixes are compared
  -- with the six accepted ones
  cases nettype <;> cases nettype' <;>
    simp_all [AddressPrefixes.written, AddressPrefixes.accepted, addressPrefixes] <;>
    rcases h with rfl | rfl | rfl | rfl | rfl <;> decide

/-- `address_parse_info` -/
structure AddressParseInfo where
  address : AccountPublicAddress
  isSubaddress : Bool
  isKurz : Bool
  hasPaymentId : Bool
  paymentId : Pod 8
deriving DecidableEq, Inhabited

section Text

variable (cnFastHash : List UInt8 → Hash)

/-- `get_public_address_as_str<NETTYPE>(subaddress, adr)`: a kurz address when
the two keys are equal, a long one otherwise. -/
def getPublicAddressAsStr (nettype : NetworkType) (subaddress : Bool) (adr : AccountPublicAddress) :
    List UInt8 :=
  let cfg := addressPrefixes nettype
  if adr.spendPublicKey = adr.viewPublicKey then
    let addressPrefix := if subaddress then cfg.ryoKurzSubaddress else cfg.ryoKurzAddress
    Base58.encodeAddr cnFastHash addressPrefix (writeKurzAddress ⟨adr.spendPublicKey⟩)
  else
    let addressPrefix := if subaddress then cfg.ryoLongSubaddress else cfg.ryoLongAddress
    Base58.encodeAddr cnFastHash addressPrefix (writeAccountPublicAddress adr)

/-- `get_account_integrated_address_as_str<NETTYPE>(adr, payment_id)` -/
def getAccountIntegratedAddressAsStr (nettype : NetworkType) (adr : AccountPublicAddress)
    (paymentId : Pod 8) : List UInt8 :=
  Base58.encodeAddr cnFastHash (addressPrefixes nettype).ryoLongIntegratedAddress
    (writeIntegratedAddress ⟨adr, paymentId⟩)

/-- The `switch` of `get_account_address_from_str` on the prefix: the flags it
sets, `none` for a prefix it does not know. -/
def addressKind (cfg : AddressPrefixes) (info : AddressParseInfo) (addressPrefix : UInt64) :
    Option AddressParseInfo :=
  if addressPrefix = cfg.ryoLongAddress ∨ addressPrefix = cfg.legacyLongAddress then some info
  else if addressPrefix = cfg.ryoLongIntegratedAddress ∨ addressPrefix = cfg.legacyLongIntegratedAddress then
    some { info with hasPaymentId := true }
  else if addressPrefix = cfg.ryoLongSubaddress then some { info with isSubaddress := true }
  else if addressPrefix = cfg.ryoKurzAddress then some { info with isKurz := true }
  else none

/-- `get_account_address_from_str<NETTYPE>(info, str)`: the fields of `info` it
sets, `none` where it returns `false`. The payment id is only written for an
integrated address. -/
def getAccountAddressFromStr (checkKey : PublicKey → Bool) (nettype : NetworkType)
    (info : AddressParseInfo) (str : List UInt8) : Option AddressParseInfo :=
  match Base58.decodeAddr cnFastHash str with
  | none => none
  | some (addressPrefix, data) =>
    let info := { info with hasPaymentId := false, isSubaddress := false, isKurz := false }
    match addressKind (addressPrefixes nettype) info addressPrefix with
    | none => none
    | some info =>
      let parsed :=
        if info.hasPaymentId then
          (parseBinary (fun _ => serializeIntegratedAddress) data default).map fun iadr =>
            { info with address := iadr.adr, paymentId := iadr.paymentId }
        else if info.isKurz then
          (parseBinary (fun _ => serializeKurzAddress) data default).map fun kadr =>
            { info with address := ⟨kadr.publicKey, kadr.publicKey⟩ }
        else
          (parseBinary (fun _ => serializeAccountPublicAddress) data info.address).map fun adr =>
            { info with address := adr }
      match parsed with
      | none => none
      | some info =>
        if !checkKey info.address.spendPublicKey || !checkKey info.address.viewPublicKey then none
        else some info

/-! ## Reading back what is printed -/

theorem reads_serializeAccountPublicAddress (adr : AccountPublicAddress) :
    Reads serializeAccountPublicAddress adr (writeAccountPublicAddress adr) :=
  (reads_serializePod adr.spendPublicKey).bind (reads_serializePod adr.viewPublicKey).bind_pure

theorem reads_serializeKurzAddress (kadr : KurzAddress) :
    Reads serializeKurzAddress kadr (writeKurzAddress kadr) :=
  (reads_serializePod kadr.publicKey).map KurzAddress.mk

theorem reads_serializeIntegratedAddress (iadr : IntegratedAddress) :
    Reads serializeIntegratedAddress iadr (writeIntegratedAddress iadr) :=
  (reads_serializeAccountPublicAddress iadr.adr).bind (reads_serializePod iadr.paymentId).bind_pure

section Kind

variable (cfg : AddressPrefixes) (info : AddressParseInfo)

theorem addressKind_ryoLongAddress : addressKind cfg info cfg.ryoLongAddress = some info := by
  simp [addressKind]

theorem addressKind_ryoLongIntegratedAddress :
    addressKind cfg info cfg.ryoLongIntegratedAddress = some { info with hasPaymentId := true } := by
  have h := cfg.nodup
  simp only [List.nodup_cons, List.mem_cons, List.not_mem_nil, not_or] at h
  simp [addressKind, h]

theorem addressKind_ryoLongSubaddress :
    addressKind cfg info cfg.ryoLongSubaddress = some { info with isSubaddress := true } := by
  have h := cfg.nodup
  simp only [List.nodup_cons, List.mem_cons, List.not_mem_nil, not_or] at h
  simp [addressKind, h]

theorem addressKind_ryoKurzAddress :
    addressKind cfg info cfg.ryoKurzAddress = some { info with isKurz := true } := by
  have h := cfg.nodup
  simp only [List.nodup_cons, List.mem_cons, List.not_mem_nil, not_or] at h
  simp [addressKind, h]

theorem addressKind_eq_none_iff (addressPrefix : UInt64) :
    addressKind cfg info addressPrefix = none ↔ addressPrefix ∉ cfg.accepted := by
  simp only [addressKind, AddressPrefixes.accepted, List.mem_cons, List.not_mem_nil, or_false]
  split_ifs <;> simp only [false_iff, not_not] <;> tauto

theorem addressKind_ryoKurzSubaddress : addressKind cfg info cfg.ryoKurzSubaddress = none := by
  have h := cfg.nodup
  simp only [List.nodup_cons, List.mem_cons, List.not_mem_nil, not_or] at h
  rw [addressKind_eq_none_iff]
  simp [AddressPrefixes.accepted, h]

theorem addressKind_eq_some {addressPrefix : UInt64} {info' : AddressParseInfo}
    (h : addressKind cfg info addressPrefix = some info') :
    info' = info ∨ info' = { info with hasPaymentId := true } ∨
      info' = { info with isSubaddress := true } ∨ info' = { info with isKurz := true } := by
  unfold addressKind at h
  split_ifs at h <;> cases h <;> simp

end Kind

variable (checkKey : PublicKey → Bool) (nettype : NetworkType) (info : AddressParseInfo)

theorem getAccountAddressFromStr_getPublicAddressAsStr (subaddress : Bool) (adr : AccountPublicAddress) :
    getAccountAddressFromStr cnFastHash checkKey nettype info
        (getPublicAddressAsStr cnFastHash nettype subaddress adr) =
      if subaddress ∧ adr.spendPublicKey = adr.viewPublicKey then none
      else if !checkKey adr.spendPublicKey || !checkKey adr.viewPublicKey then none
      else some { info with
        address := adr, isSubaddress := subaddress, hasPaymentId := false
        isKurz := decide (adr.spendPublicKey = adr.viewPublicKey) } := by
  obtain ⟨spend, view⟩ := adr
  unfold getPublicAddressAsStr getAccountAddressFromStr
  by_cases hkey : spend = view
  · subst hkey
    cases subaddress
    · simp [Base58.decodeAddr_encodeAddr, addressKind_ryoKurzAddress, parseBinary,
        readAll_of_reads (reads_serializeKurzAddress _)]
    · simp [Base58.decodeAddr_encodeAddr, addressKind_ryoKurzSubaddress]
  · cases subaddress
    · simp [hkey, Base58.decodeAddr_encodeAddr, addressKind_ryoLongAddress, parseBinary,
        readAll_of_reads (reads_serializeAccountPublicAddress _)]
    · simp [hkey, Base58.decodeAddr_encodeAddr, addressKind_ryoLongSubaddress, parseBinary,
        readAll_of_reads (reads_serializeAccountPublicAddress _)]

theorem getAccountAddressFromStr_getAccountIntegratedAddressAsStr (adr : AccountPublicAddress)
    (paymentId : Pod 8) :
    getAccountAddressFromStr cnFastHash checkKey nettype info
        (getAccountIntegratedAddressAsStr cnFastHash nettype adr paymentId) =
      if !checkKey adr.spendPublicKey || !checkKey adr.viewPublicKey then none
      else some { address := adr, isSubaddress := false, isKurz := false, hasPaymentId := true, paymentId } := by
  unfold getAccountIntegratedAddressAsStr getAccountAddressFromStr
  simp [Base58.decodeAddr_encodeAddr, addressKind_ryoLongIntegratedAddress, parseBinary,
    readAll_of_reads (reads_serializeIntegratedAddress _)]

/-- A string whose prefix the parser does not know is refused. -/
theorem getAccountAddressFromStr_encodeAddr_of_not_mem {addressPrefix : UInt64} (data : List UInt8)
    (h : addressPrefix ∉ (addressPrefixes nettype).accepted) :
    getAccountAddressFromStr cnFastHash checkKey nettype info
      (Base58.encodeAddr cnFastHash addressPrefix data) = none := by
  unfold getAccountAddressFromStr
  rw [Base58.decodeAddr_encodeAddr]
  simp only
  rw [(addressKind_eq_none_iff _ _ addressPrefix).mpr h]

theorem getPublicAddressAsStr_eq_encodeAddr (subaddress : Bool) (adr : AccountPublicAddress) :
    ∃ addressPrefix ∈ (addressPrefixes nettype).written, ∃ data,
      getPublicAddressAsStr cnFastHash nettype subaddress adr =
        Base58.encodeAddr cnFastHash addressPrefix data := by
  unfold getPublicAddressAsStr
  split_ifs <;> exact ⟨_, by simp [AddressPrefixes.written], _, rfl⟩

/-- **Addresses of another network.** An address printed for one network, plain
or integrated, is refused by the parser of any other. -/
theorem getAccountAddressFromStr_of_ne {nettype' : NetworkType} (hne : nettype' ≠ nettype) :
    (∀ subaddress adr, getAccountAddressFromStr cnFastHash checkKey nettype info
        (getPublicAddressAsStr cnFastHash nettype' subaddress adr) = none) ∧
      ∀ adr paymentId, getAccountAddressFromStr cnFastHash checkKey nettype info
        (getAccountIntegratedAddressAsStr cnFastHash nettype' adr paymentId) = none := by
  constructor
  · intro subaddress adr
    obtain ⟨addressPrefix, hmem, data, hstr⟩ :=
      getPublicAddressAsStr_eq_encodeAddr cnFastHash nettype' subaddress adr
    rw [hstr]
    exact getAccountAddressFromStr_encodeAddr_of_not_mem cnFastHash checkKey nettype info data
      (not_mem_accepted_of_mem_written hne hmem)
  · intro adr paymentId
    exact getAccountAddressFromStr_encodeAddr_of_not_mem cnFastHash checkKey nettype info _
      (not_mem_accepted_of_mem_written hne (by simp [AddressPrefixes.written]))

/-- A mainnet address on testnet, with `check_key` accepting every key and a hash
that is always `null_hash`. -/
theorem getAccountAddressFromStr_of_ne_mainnet :
    NetworkType.mainnet ≠ .testnet ∧
      (∀ subaddress adr, getAccountAddressFromStr (fun _ => nullHash) (fun _ => true) .testnet default
        (getPublicAddressAsStr (fun _ => nullHash) .mainnet subaddress adr) = none) ∧
      ∀ adr paymentId, getAccountAddressFromStr (fun _ => nullHash) (fun _ => true) .testnet default
        (getAccountIntegratedAddressAsStr (fun _ => nullHash) .mainnet adr paymentId) = none :=
  ⟨by decide, getAccountAddressFromStr_of_ne _ _ _ _ (by decide)⟩

/-- **What the parser accepts.** Both keys passed `check_key`; at most one of
the three kinds is set; a kurz address has equal keys; and the payment id is
the caller's unless the address is integrated. -/
theorem getAccountAddressFromStr_wellFormed {str : List UInt8} {info' : AddressParseInfo}
    (h : getAccountAddressFromStr cnFastHash checkKey nettype info str = some info') :
    checkKey info'.address.spendPublicKey ∧ checkKey info'.address.viewPublicKey ∧
      [info'.hasPaymentId, info'.isSubaddress, info'.isKurz].count true ≤ 1 ∧
      (info'.isKurz → info'.address.spendPublicKey = info'.address.viewPublicKey) ∧
      (info'.hasPaymentId = false → info'.paymentId = info.paymentId) := by
  unfold getAccountAddressFromStr at h
  split at h
  · cases h
  rename_i addressPrefix data _
  simp only at h
  split at h
  · cases h
  rename_i kinfo hkind
  split at h
  · cases h
  rename_i pinfo hparsed
  split_ifs at h with hcheck
  cases h
  simp only [Bool.or_eq_true, Bool.not_eq_true', not_or, Bool.not_eq_false] at hcheck
  rcases addressKind_eq_some _ _ hkind with rfl | rfl | rfl | rfl <;>
    simp only [Bool.false_eq_true, ite_true, ite_false, Option.map_eq_some_iff] at hparsed <;>
    obtain ⟨x, -, rfl⟩ := hparsed <;> simp_all

/-- The kurz address of the zero key on mainnet is read back as a kurz address. -/
theorem getAccountAddressFromStr_wellFormed_kurz :
    let info' : AddressParseInfo := { (default : AddressParseInfo) with isKurz := true }
    getAccountAddressFromStr (fun _ => nullHash) (fun _ => true) .mainnet default
        (getPublicAddressAsStr (fun _ => nullHash) .mainnet false default) = some info' ∧
      (fun _ => true) info'.address.spendPublicKey ∧ (fun _ => true) info'.address.viewPublicKey ∧
      [info'.hasPaymentId, info'.isSubaddress, info'.isKurz].count true ≤ 1 ∧
      (info'.isKurz → info'.address.spendPublicKey = info'.address.viewPublicKey) ∧
      (info'.hasPaymentId = false → info'.paymentId = (default : AddressParseInfo).paymentId) :=
  have h : getAccountAddressFromStr (fun _ => nullHash) (fun _ => true) .mainnet default
      (getPublicAddressAsStr (fun _ => nullHash) .mainnet false default) =
        some { (default : AddressParseInfo) with isKurz := true } := by
    -- the zero key is its own view key, so the address printed is a kurz one
    have hkurz : (default : AccountPublicAddress) = ⟨default, default⟩ := rfl
    rw [hkurz]
    unfold getPublicAddressAsStr getAccountAddressFromStr
    simp [Base58.decodeAddr_encodeAddr, addressKind_ryoKurzAddress, parseBinary,
      readAll_of_reads (reads_serializeKurzAddress _)]
    exact ⟨rfl, rfl, rfl⟩
  ⟨h, getAccountAddressFromStr_wellFormed _ _ _ _ h⟩

end Text

end Ombre
