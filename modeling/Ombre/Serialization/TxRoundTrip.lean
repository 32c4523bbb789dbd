import Ombre.Serialization.TxFormat

/-!
# Reading back a transaction or a block

What `parse_binary` makes of the bytes `dump_binary` wrote. Reading goes into
an existing object, so the result is the object read into with the fields the
format carries replaced (`Transaction.withWireOf`): the prefix, and after it
the signatures of a version 1 transaction, or for a later version with inputs
the ring signature fields its type carries.

Each part is read back from what its writer wrote whatever follows it, by
one lemma per reader, from the archive's lemmas up to the transaction and the
block.
-/

namespace Ombre

open Codec BinaryArchive

/-! ## What a read gives -/

/-- The prunable part read from `p`'s bytes into `p₀`: the bulletproofs or the
range signatures, as the type has, and the `mgSig`s; bulletproofs bring the
pseudo outputs. -/
def RctSigPrunable.withWireOf (p₀ p : RctSigPrunable) (type : UInt8) : RctSigPrunable :=
  if type = rctTypeBulletproof then
    { p₀ with bulletproofs := p.bulletproofs, mgs := p.mgs, pseudoOuts := p.pseudoOuts }
  else { p₀ with rangeSigs := p.rangeSigs, mgs := p.mgs }

/-- The base of a ring signature read from `rv`'s bytes into `rv₀`: the type,
and unless it is null the fee, the outputs' data and the pseudo outputs of a
simple signature. -/
def RctSig.baseWithWireOf (rv₀ rv : RctSig) : RctSig :=
  if rv.type = rctTypeNull then { rv₀ with type := rv.type }
  else
    { rv₀ with
      type := rv.type, txnFee := rv.txnFee, ecdhInfo := rv.ecdhInfo, outPk := rv.outPk
      pseudoOuts := if rv.type = rctTypeSimple then rv.pseudoOuts else rv₀.pseudoOuts }

/-- A ring signature read from `rv`'s bytes into `rv₀`: the base, and the
prunable part unless the type is null. -/
def RctSig.withWireOf (rv₀ rv : RctSig) : RctSig :=
  if rv.type = rctTypeNull then rv₀.baseWithWireOf rv
  else { rv₀.baseWithWireOf rv with p := rv₀.p.withWireOf rv.p rv.type }

/-- A transaction read from `tx`'s bytes into `t₀`: `tx`'s prefix, and its
signatures for version 1, or its ring signature when it has inputs. -/
def Transaction.withWireOf (t₀ tx : Transaction) : Transaction :=
  if tx.version = 1 then
    { t₀ with toTransactionPrefix := tx.toTransactionPrefix, signatures := tx.signatures }
  else if tx.vin.isEmpty then { t₀ with toTransactionPrefix := tx.toTransactionPrefix }
  else
    { t₀ with
      toTransactionPrefix := tx.toTransactionPrefix
      rctSignatures := t₀.rctSignatures.withWireOf tx.rctSignatures }

/-- The counts the format leaves out or writes narrower than the model holds
them: a version 1 transaction has one signature list per input (the reader
makes one for each), and there are fewer bulletproofs than a `uint32_t` holds. -/
structure Transaction.WireCounts (tx : Transaction) : Prop where
  signatures : tx.version = 1 → tx.signatures.length = tx.vin.length
  bulletproofs : tx.rctSignatures.type = rctTypeBulletproof →
    tx.rctSignatures.p.bulletproofs.length < 2 ^ 32

/-! ## Outputs and inputs -/

section Elements

theorem writeTxinV_ne_nil (i : TxinV) : writeTxinV i ≠ [] := by
  cases i <;> simp [writeTxinV, writeInt8_eq]

theorem writeTxOut_ne_nil (o : TxOut) : writeTxOut o ≠ [] := by
  simp [writeTxOut, writeVarint64_ne_nil]

theorem reads_serializeTxoutToScript (t : TxoutToScript)
    (hlen : (writeTxoutToScript t).length < 2 ^ 64) :
    Reads serializeTxoutToScript t (writeTxoutToScript t) := by
  rw [writeTxoutToScript, List.length_append] at *
  rw [serializeTxoutToScript]
  exact (reads_serializeContainer Pod.bytes_ne_nil (fun p _ _ => reads_serializePod p) (by omega)).bind
    (reads_serializeContainer writeInt8_ne_nil (fun b _ _ => reads_serializeInt8 b) (by omega)).bind_pure

theorem reads_serializeTxinGen (i : TxinGen) : Reads serializeTxinGen i (writeTxinGen i) :=
  (reads_serializeVarint64 i.height).map TxinGen.mk

theorem reads_serializeTxinToScript (i : TxinToScript)
    (hlen : (writeTxinToScript i).length < 2 ^ 64) :
    Reads serializeTxinToScript i (writeTxinToScript i) := by
  rw [writeTxinToScript, List.length_append] at hlen
  rw [serializeTxinToScript, writeTxinToScript, List.append_assoc]
  exact (reads_serializePod i.prev).bind ((reads_serializeVarint64 i.prevout).bind
    (reads_serializeContainer writeInt8_ne_nil (fun b _ _ => reads_serializeInt8 b) (by omega)).bind_pure)

theorem reads_serializeTxinToScripthash (i : TxinToScripthash)
    (hlen : (writeTxinToScripthash i).length < 2 ^ 64) :
    Reads serializeTxinToScripthash i (writeTxinToScripthash i) := by
  simp only [writeTxinToScripthash, List.length_append] at hlen
  rw [serializeTxinToScripthash, writeTxinToScripthash]
  simp only [List.append_assoc]
  exact (reads_serializePod i.prev).bind ((reads_serializeVarint64 i.prevout).bind
    ((reads_serializeTxoutToScript i.script (by omega)).bind
      (reads_serializeContainer writeInt8_ne_nil (fun b _ _ => reads_serializeInt8 b) (by omega)).bind_pure))

theorem reads_serializeTxinToKey (i : TxinToKey) (hlen : (writeTxinToKey i).length < 2 ^ 64) :
    Reads serializeTxinToKey i (writeTxinToKey i) := by
  rw [writeTxinToKey, List.length_append, List.length_append] at hlen
  rw [serializeTxinToKey, writeTxinToKey, List.append_assoc]
  exact (reads_serializeVarint64 i.amount).bind
    ((reads_serializeContainer writeVarint64_ne_nil (fun v _ _ => reads_serializeVarint64 v) (by omega)).bind
      (reads_serializePod i.kImage).bind_pure)

/-- A variant reads back as the alternative its tag names; the tags of the
four kinds of input are distinct. -/
theorem reads_serializeTxinV (i : TxinV) (hlen : (writeTxinV i).length < 2 ^ 64) :
    Reads serializeTxinV i (writeTxinV i) := by
  rw [serializeTxinV]
  cases i with
  | gen g =>
    refine (reads_serializeInt8 0xff).bind ?_
    rw [if_pos rfl]
    exact (reads_serializeTxinGen g).map _
  | toScript s =>
    rw [writeTxinV, List.length_append] at hlen
    refine (reads_serializeInt8 0x0).bind ?_
    rw [if_neg (by decide), if_pos rfl]
    exact (reads_serializeTxinToScript s (by omega)).map _
  | toScripthash s =>
    rw [writeTxinV, List.length_append] at hlen
    refine (reads_serializeInt8 0x1).bind ?_
    rw [if_neg (by decide), if_neg (by decide), if_pos rfl]
    exact (reads_serializeTxinToScripthash s (by omega)).map _
  | toKey k =>
    rw [writeTxinV, List.length_append] at hlen
    refine (reads_serializeInt8 0x2).bind ?_
    rw [if_neg (by decide), if_neg (by decide), if_neg (by decide), if_pos rfl]
    exact (reads_serializeTxinToKey k (by omega)).map _

theorem reads_serializeTxoutTargetV (t : TxoutTargetV) (hlen : (writeTxoutTargetV t).length < 2 ^ 64) :
    Reads serializeTxoutTargetV t (writeTxoutTargetV t) := by
  rw [serializeTxoutTargetV]
  cases t with
  | toScript s =>
    rw [writeTxoutTargetV, List.length_append] at hlen
    refine (reads_serializeInt8 0x0).bind ?_
    rw [if_pos rfl]
    exact (reads_serializeTxoutToScript s (by omega)).map _
  | toScripthash h =>
    refine (reads_serializeInt8 0x1).bind ?_
    rw [if_neg (by decide), if_pos rfl]
    exact (reads_serializePod h.hash).map (fun h => TxoutTargetV.toScripthash ⟨h⟩)
  | toKey k =>
    refine (reads_serializeInt8 0x2).bind ?_
    rw [if_neg (by decide), if_neg (by decide), if_pos rfl]
    exact (reads_serializePod k.key).map (fun k => TxoutTargetV.toKey ⟨k⟩)

theorem reads_serializeTxOut (o : TxOut) (hlen : (writeTxOut o).length < 2 ^ 64) :
    Reads serializeTxOut o (writeTxOut o) := by
  rw [writeTxOut, List.length_append] at hlen
  rw [serializeTxOut]
  exact (reads_serializeVarint64 o.amount).bind (reads_serializeTxoutTargetV o.target (by omega)).bind_pure

end Elements

/-! ## The prefix and the signatures of version 1 -/

section Prefix

theorem writeTransactionPrefix_eq_some {p : TransactionPrefix} {bs : List UInt8} :
    writeTransactionPrefix p = some bs ↔ ¬(p.version = 0 ∨ p.version > maxTransactionVersion) ∧
      bs = writeVarint64 p.version ++ writeVarint64 p.unlockTime ++ writeContainer writeTxinV p.vin ++
        writeContainer writeTxOut p.vout ++ writeContainer writeInt8 p.extra := by
  rw [writeTransactionPrefix]
  split
  · next hbad => simp [hbad]
  · next hok => simp [hok, eq_comm]

theorem reads_serializeTransactionPrefix {p : TransactionPrefix} {bs : List UInt8}
    (hw : writeTransactionPrefix p = some bs) (hlen : bs.length < 2 ^ 64) :
    Reads serializeTransactionPrefix p bs := by
  obtain ⟨hv, rfl⟩ := writeTransactionPrefix_eq_some.mp hw
  simp only [List.length_append] at hlen
  rw [serializeTransactionPrefix]
  simp only [List.append_assoc]
  exact (reads_serializeVarint64 p.version).bind ((reads_require hv).bind_nil
    ((reads_serializeVarint64 p.unlockTime).bind
      ((reads_serializeContainer writeTxinV_ne_nil (fun i _ hi => reads_serializeTxinV i hi)
          (by omega)).bind
        ((reads_serializeContainer writeTxOut_ne_nil (fun o _ ho => reads_serializeTxOut o ho)
            (by omega)).bind
          (reads_serializeContainer writeInt8_ne_nil (fun b _ _ => reads_serializeInt8 b)
            (by omega)).bind_pure))))

theorem reads_serializeSignatureVector (s : List Signature) :
    Reads (serializeSignatureVector s.length) s (writePods s) := by
  intro rest
  -- the check on the bytes left, in `size_t`, is at most the true product
  have hrem : s.length * 64 % 2 ^ 64 ≤ (writePods s ++ rest).length := by
    have := Nat.mod_le (s.length * 64) (2 ^ 64)
    rw [List.length_append, length_writePods]
    omega
  rw [serializeSignatureVector, StateT.run_bind, run_remaining]
  simp only [Option.bind_eq_bind, Option.bind_some, StateT.run_bind, run_require hrem]
  exact reads_writePods s rest

/-- What `writeSignatures` wrote, when there is one signature list per input:
the lists one after the other, each of its input's signature size. -/
theorem writeSignatures_eq_some {vin : List TxinV} {sigs : List (List Signature)} {bs : List UInt8}
    (hc : sigs.length = vin.length) (hw : writeSignatures vin sigs = some bs) :
    bs = (sigs.map writePods).flatten ∧ ∀ p ∈ vin.zip sigs, getSignatureSize p.1 = p.2.length := by
  rw [writeSignatures] at hw
  split at hw
  · next hempty =>
    -- no signatures, so no inputs either
    have hs : sigs = [] := List.isEmpty_iff.mp hempty
    subst hs
    have hv : vin = [] := List.eq_nil_of_length_eq_zero hc.symm
    subst hv
    simp only [List.all_nil, if_true, Option.some.injEq] at hw
    simp [← hw]
  · split at hw
    · cases hw
    · split at hw
      · next hsizes =>
        rw [Option.some.injEq] at hw
        refine ⟨hw.symm, fun p hp => ?_⟩
        have := List.all_eq_true.mp hsizes p hp
        simpa using this
      · cases hw

theorem reads_serializeSignatures {vin : List TxinV} {sigs : List (List Signature)} {bs : List UInt8}
    (hc : sigs.length = vin.length) (hw : writeSignatures vin sigs = some bs) :
    Reads (serializeSignatures vin) sigs bs := by
  obtain ⟨rfl, hsizes⟩ := writeSignatures_eq_some hc hw
  refine Reads.mapM vin sigs hc.symm fun p hp => ?_
  show Reads (serializeSignatureVector (getSignatureSize p.1)) p.2 (writePods p.2)
  rw [hsizes p hp]
  exact reads_serializeSignatureVector p.2

end Prefix

/-! ## Ring signatures -/

section RingCT

theorem reads_serializeEcdhTuple (e : EcdhTuple) : Reads serializeEcdhTuple e (writeEcdhTuple e) := by
  rw [serializeEcdhTuple]
  exact (reads_serializePod e.mask).bind (reads_serializePod e.amount).bind_pure

theorem reads_serializeCtKey (k : CtKey) : Reads serializeCtKey k (writeCtKey k) :=
  (reads_serializePod k.mask).map CtKey.mk

theorem reads_serializeRangeSig (r : RangeSig) : Reads serializeRangeSig r (writeRangeSig r) := by
  rw [serializeRangeSig]
  exact (reads_serializePod r.asig).bind (reads_serializePod r.ci).bind_pure

theorem writeBulletproof_eq_some {p : Bulletproof} {bs : List UInt8} :
    writeBulletproof p = some bs ↔ ¬(p.l.isEmpty ∨ p.l.length ≠ p.r.length) ∧
      bs = p.a1.bytes ++ p.s.bytes ++ p.t1.bytes ++ p.t2.bytes ++ p.taux.bytes ++ p.mu.bytes ++
        writeContainer Pod.bytes p.l ++ writeContainer Pod.bytes p.r ++ p.a.bytes ++ p.b.bytes ++
        p.t.bytes := by
  rw [writeBulletproof]
  split
  · next hbad =>
    constructor
    · intro h
      cases h
    · rintro ⟨hok, -⟩
      exact absurd hbad hok
  · next hok =>
    rw [Option.some.injEq]
    exact ⟨fun h => ⟨hok, h.symm⟩, fun h => h.2.symm⟩

theorem reads_serializeBulletproof {p : Bulletproof} {bs : List UInt8}
    (hw : writeBulletproof p = some bs) (hlen : bs.length < 2 ^ 64) :
    Reads serializeBulletproof p bs := by
  obtain ⟨hok, rfl⟩ := writeBulletproof_eq_some.mp hw
  simp only [List.length_append] at hlen
  rw [serializeBulletproof]
  simp only [List.append_assoc]
  exact (reads_serializePod p.a1).bind ((reads_serializePod p.s).bind ((reads_serializePod p.t1).bind
    ((reads_serializePod p.t2).bind ((reads_serializePod p.taux).bind ((reads_serializePod p.mu).bind
      ((reads_serializeContainer Pod.bytes_ne_nil (fun k _ _ => reads_serializePod k) (by omega)).bind
        ((reads_serializeContainer Pod.bytes_ne_nil (fun k _ _ => reads_serializePod k) (by omega)).bind
          ((reads_serializePod p.a).bind ((reads_serializePod p.b).bind
            ((reads_serializePod p.t).bind_of_nil ((reads_require hok).bind_nil (reads_pure _))))))))))))

theorem writeMgSig_eq_some {rows width : ℕ} {m : MgSig} {bs : List UInt8} :
    writeMgSig rows width m = some bs ↔ m.ss.length = rows ∧ (∀ row ∈ m.ss, row.length = width) ∧
      bs = (m.ss.map writePods).flatten ++ m.cc.bytes := by
  rw [writeMgSig]
  split
  · next hrows => simp [hrows]
  · next hrows =>
    split
    · next hwidth =>
      obtain ⟨row, hrow, hne⟩ := List.any_eq_true.mp hwidth
      simp only [reduceCtorEq, false_iff, not_and]
      exact fun _ h => absurd (h row hrow) (by simpa using hne)
    · next hwidth =>
      simp only [List.any_eq_true, decide_eq_true_eq, not_exists, not_and, not_not] at hwidth
      rw [Option.some.injEq]
      exact ⟨fun h => ⟨not_not.mp hrows, hwidth, h.symm⟩, fun h => h.2.2.symm⟩

theorem reads_serializeMgSig {rows width : ℕ} {m : MgSig} {bs : List UInt8}
    (hw : writeMgSig rows width m = some bs) : Reads (serializeMgSig rows width) m bs := by
  obtain ⟨hrows, hwidth, rfl⟩ := writeMgSig_eq_some.mp hw
  rw [serializeMgSig]
  refine (Reads.readMany_of_length_eq hrows fun row hrow => ?_).bind
    (reads_serializePod m.cc).bind_pure
  rw [← hwidth row hrow]
  exact reads_writePods row

theorem reads_serializeRctsigBase (rv₀ : RctSig) {rv : RctSig} {inputs outputs : ℕ} {bs : List UInt8}
    (hw : writeRctsigBase rv inputs outputs = some bs) :
    Reads (serializeRctsigBase rv₀ inputs outputs) (rv₀.baseWithWireOf rv) bs := by
  rw [writeRctsigBase] at hw
  rw [serializeRctsigBase, RctSig.baseWithWireOf]
  by_cases hnull : rv.type = rctTypeNull
  · rw [if_pos hnull, Option.some.injEq] at hw
    subst hw
    refine (reads_serializeInt8 rv.type).bind_of_nil ?_
    rw [if_pos hnull, if_pos hnull]
    exact reads_pure _
  rw [if_neg hnull] at hw
  split at hw
  · cases hw
  next hvalid =>
  split at hw
  · cases hw
  next hpseudo =>
  split at hw
  · cases hw
  next hecdh =>
  split at hw
  · cases hw
  next houtPk =>
  rw [Option.some.injEq] at hw
  subst hw
  simp only [List.append_assoc]
  refine (reads_serializeInt8 rv.type).bind ?_
  simp only [if_neg hnull]
  refine (reads_require (not_not.mp hvalid)).bind_nil ((reads_serializeVarint64 rv.txnFee).bind ?_)
  have hecdh' := Reads.readMany_of_length_eq (not_not.mp hecdh) fun e _ => reads_serializeEcdhTuple e
  have houtPk' := Reads.readMany_of_length_eq (not_not.mp houtPk) fun k _ => reads_serializeCtKey k
  -- the pseudo outputs are there for a simple signature only
  by_cases hsimple : rv.type = rctTypeSimple
  · have hpseudo' : rv.pseudoOuts.length = inputs := by
      by_contra h
      exact hpseudo ⟨hsimple, h⟩
    simp only [if_pos hsimple]
    exact (Reads.readMany_of_length_eq hpseudo' fun k _ => reads_serializePod k).bind
      (hecdh'.bind houtPk'.bind_pure)
  · simp only [if_neg hsimple, List.nil_append]
    exact (reads_pure rv₀.pseudoOuts).bind_nil (hecdh'.bind houtPk'.bind_pure)

theorem reads_serializeBulletproofs (p₀ : RctSigPrunable) {p : RctSigPrunable} {outputs : ℕ}
    {bs : List UInt8} (hw : writeBulletproofs p outputs = some bs)
    (hcount : p.bulletproofs.length < 2 ^ 32) (hlen : bs.length < 2 ^ 64) :
    Reads (serializeBulletproofs p₀ outputs) { p₀ with bulletproofs := p.bulletproofs } bs := by
  -- the `uint32_t` count is the number of bulletproofs
  have hnbp : (UInt32.ofNat p.bulletproofs.length).toNat = p.bulletproofs.length :=
    UInt32.toNat_ofNat_of_lt' hcount
  rw [writeBulletproofs, hnbp, List.take_of_length_le (Nat.le_refl _)] at hw
  split at hw
  · cases hw
  next hle =>
  simp only [Option.bind_eq_bind, Option.bind_eq_some_iff] at hw
  obtain ⟨proofs, hproofs, hw⟩ := hw
  split at hw
  · cases hw
  next hcover =>
  rw [Option.some.injEq] at hw
  subst hw
  rw [List.length_append] at hlen
  rw [serializeBulletproofs]
  refine (reads_serializeInt32 _).bind ?_
  rw [hnbp]
  exact (reads_require hle).bind_nil
    ((Reads.readMany_of_mapM (fun _ _ hb hbl => reads_serializeBulletproof hb hbl) p.bulletproofs
      proofs hproofs (by omega)).bind_of_nil ((reads_require hcover).bind_nil (reads_pure _)))

theorem reads_serializeRangeSigs (p₀ : RctSigPrunable) {p : RctSigPrunable} {outputs : ℕ}
    {bs : List UInt8} (hw : writeRangeSigs p outputs = some bs) :
    Reads (serializeRangeSigs p₀ outputs) { p₀ with rangeSigs := p.rangeSigs } bs := by
  rw [writeRangeSigs] at hw
  split at hw
  · cases hw
  next hlen =>
  rw [Option.some.injEq] at hw
  subst hw
  rw [serializeRangeSigs]
  exact (Reads.readMany_of_length_eq (not_not.mp hlen) fun r _ => reads_serializeRangeSig r).bind_pure

theorem reads_serializeRctsigPrunable (p₀ : RctSigPrunable) {p : RctSigPrunable} {type : UInt8}
    {inputs outputs : ℕ} {mixin : UInt64} {bs : List UInt8} (hnull : type ≠ rctTypeNull)
    (hw : writeRctsigPrunable p type inputs outputs mixin = some bs)
    (hcount : type = rctTypeBulletproof → p.bulletproofs.length < 2 ^ 32) (hlen : bs.length < 2 ^ 64) :
    Reads (serializeRctsigPrunable p₀ type inputs outputs mixin) (p₀.withWireOf p type) bs := by
  rw [writeRctsigPrunable, if_neg hnull] at hw
  have hvalid : type = rctTypeFull ∨ type = rctTypeSimple ∨ type = rctTypeBulletproof := by
    by_contra h
    rw [if_pos h] at hw
    cases hw
  rw [if_neg (not_not.mpr hvalid)] at hw
  simp only [Option.bind_eq_bind, Option.bind_eq_some_iff] at hw
  obtain ⟨proofs, hproofs, hw⟩ := hw
  have hmgs : p.mgs.length = mgElements type inputs := by
    by_contra h
    rw [if_pos h] at hw
    cases hw
  rw [if_neg (not_not.mpr hmgs)] at hw
  simp only [Option.bind_eq_some_iff] at hw
  obtain ⟨mgs, hmgsw, hw⟩ := hw
  have hpseudo : ¬(type = rctTypeBulletproof ∧ p.pseudoOuts.length ≠ inputs) := by
    intro h
    rw [if_pos h] at hw
    cases hw
  rw [if_neg hpseudo, Option.some.injEq] at hw
  subst hw
  simp only [List.length_append] at hlen
  have hmgs' := Reads.readMany_of_mapM (fun _ _ hm _ => reads_serializeMgSig hm) p.mgs mgs hmgsw
    (show mgs.flatten.length < 2 ^ 64 by omega)
  rw [hmgs] at hmgs'
  rw [serializeRctsigPrunable, if_neg hnull, RctSigPrunable.withWireOf]
  refine (reads_require hvalid).bind_nil ?_
  -- bulletproofs, or range signatures; only bulletproofs bring pseudo outputs
  by_cases hbp : type = rctTypeBulletproof
  · have hpseudo' : p.pseudoOuts.length = inputs := by
      by_contra h
      exact hpseudo ⟨hbp, h⟩
    simp only [if_pos hbp] at hproofs hlen ⊢
    rw [List.append_assoc]
    exact (reads_serializeBulletproofs p₀ hproofs (hcount hbp) (by omega)).bind
      (hmgs'.bind (Reads.readMany_of_length_eq hpseudo' fun k _ => reads_serializePod k).bind_pure)
  · simp only [if_neg hbp, List.append_nil] at hproofs ⊢
    exact (reads_serializeRangeSigs p₀ hproofs).bind
      (hmgs'.bind_of_nil ((reads_pure _).bind_nil (reads_pure _)))

@[simp] theorem type_baseWithWireOf (rv₀ rv : RctSig) : (rv₀.baseWithWireOf rv).type = rv.type := by
  unfold RctSig.baseWithWireOf
  split <;> rfl

@[simp] theorem p_baseWithWireOf (rv₀ rv : RctSig) : (rv₀.baseWithWireOf rv).p = rv₀.p := by
  unfold RctSig.baseWithWireOf
  split <;> rfl

end RingCT

/-! ## Transactions and blocks -/

section Transaction

/-- **Reading a transaction back.** The bytes `writeTransaction` wrote read into
`t₀` as `t₀` with the fields the format carries taken from the transaction. -/
theorem reads_serializeTransaction (t₀ : Transaction) {tx : Transaction} {bs : List UInt8}
    (hw : writeTransaction tx = some bs) (hlen : bs.length < 2 ^ 64) (hc : tx.WireCounts) :
    Reads (serializeTransaction t₀) (t₀.withWireOf tx) bs := by
  simp only [writeTransaction, Option.bind_eq_bind, Option.bind_eq_some_iff] at hw
  obtain ⟨pfx, hpfx, hw⟩ := hw
  rw [serializeTransaction, Transaction.withWireOf]
  -- version 1: the signatures
  by_cases hv1 : tx.version = 1
  · rw [if_pos hv1] at hw
    simp only [Option.bind_eq_some_iff, Option.pure_def, Option.some.injEq] at hw
    obtain ⟨sigs, hsigs, rfl⟩ := hw
    rw [List.length_append] at hlen
    refine (reads_serializeTransactionPrefix hpfx (by omega)).bind ?_
    rw [if_pos hv1, if_pos hv1]
    exact (reads_serializeSignatures (hc.signatures hv1) hsigs).bind_pure
  rw [if_neg hv1] at hw
  -- no inputs: nothing after the prefix
  by_cases hempty : tx.vin.isEmpty = true
  · rw [if_pos hempty, Option.pure_def, Option.some.injEq] at hw
    subst hw
    refine (reads_serializeTransactionPrefix hpfx hlen).bind_of_nil ?_
    rw [if_neg hv1, if_pos hempty, if_neg hv1, if_pos hempty]
    exact reads_pure _
  rw [if_neg hempty] at hw
  simp only [Option.bind_eq_some_iff] at hw
  obtain ⟨base, hbase, hw⟩ := hw
  rw [if_neg hv1, if_neg hempty, RctSig.withWireOf]
  -- the base, then the prunable part unless the type is null
  by_cases hnull : tx.rctSignatures.type = rctTypeNull
  · rw [if_pos hnull, Option.pure_def, Option.some.injEq] at hw
    subst hw
    rw [List.length_append] at hlen
    refine (reads_serializeTransactionPrefix hpfx (by omega)).bind ?_
    rw [if_neg hv1, if_neg hempty, if_pos hnull]
    refine (reads_serializeRctsigBase t₀.rctSignatures hbase).bind_of_nil ?_
    rw [type_baseWithWireOf, if_pos hnull]
    exact reads_pure _
  · rw [if_neg hnull] at hw
    simp only [Option.bind_eq_some_iff, Option.pure_def,
      Option.some.injEq] at hw
    obtain ⟨pr, hpr, rfl⟩ := hw
    simp only [List.length_append] at hlen
    rw [List.append_assoc]
    refine (reads_serializeTransactionPrefix hpfx (by omega)).bind ?_
    rw [if_neg hv1, if_neg hempty, if_neg hnull]
    refine (reads_serializeRctsigBase t₀.rctSignatures hbase).bind ?_
    rw [type_baseWithWireOf, if_neg hnull, p_baseWithWireOf]
    exact (reads_serializeRctsigPrunable t₀.rctSignatures.p hnull hpr hc.bulletproofs
      (by omega)).bind_pure

theorem reads_serializeBlockHeader (h : BlockHeader) :
    Reads serializeBlockHeader h (writeBlockHeader h) := by
  rw [serializeBlockHeader, writeBlockHeader]
  simp only [List.append_assoc]
  exact (reads_serializeVarint8 h.majorVersion).bind ((reads_serializeVarint8 h.minorVersion).bind
    ((reads_serializeVarint64 h.timestamp).bind ((reads_serializePod h.prevId).bind
      (reads_serializeInt32 h.nonce).bind_pure)))

/-- **Reading a block back**, its miner transaction read into `b₀`'s. -/
theorem reads_serializeBlock (b₀ : Block) {b : Block} {bs : List UInt8}
    (hw : writeBlock b = some bs) (hlen : bs.length < 2 ^ 64) (hc : b.minerTx.WireCounts) :
    Reads (serializeBlock b₀) { b with minerTx := b₀.minerTx.withWireOf b.minerTx } bs := by
  simp only [writeBlock, Option.bind_eq_bind, Option.bind_eq_some_iff, Option.pure_def,
    Option.some.injEq] at hw
  obtain ⟨txBytes, htx, rfl⟩ := hw
  simp only [List.length_append] at hlen
  rw [serializeBlock]
  simp only [List.append_assoc]
  exact (reads_serializeBlockHeader b.toBlockHeader).bind
    ((reads_serializeTransaction b₀.minerTx htx (by omega) hc).bind
      (reads_serializeContainer Pod.bytes_ne_nil (fun k _ _ => reads_serializePod k)
        (by omega)).bind_pure)

end Transaction

/-! ## `parse_binary` after `dump_binary` -/

section RoundTrip

/-- What a transaction writes starts with what its prefix writes. -/
theorem writeTransaction_prefix {tx : Transaction} {bs : List UInt8}
    (hw : writeTransaction tx = some bs) :
    ∃ pfx, writeTransactionPrefix tx.toTransactionPrefix = some pfx ∧ ∃ tail, bs = pfx ++ tail := by
  simp only [writeTransaction, Option.bind_eq_bind, Option.bind_eq_some_iff] at hw
  obtain ⟨pfx, hpfx, hw⟩ := hw
  refine ⟨pfx, hpfx, ?_⟩
  by_cases hv1 : tx.version = 1
  · rw [if_pos hv1] at hw
    simp only [Option.bind_eq_some_iff, Option.pure_def, Option.some.injEq] at hw
    obtain ⟨sigs, -, rfl⟩ := hw
    exact ⟨sigs, rfl⟩
  rw [if_neg hv1] at hw
  by_cases hempty : tx.vin.isEmpty = true
  · rw [if_pos hempty, Option.pure_def, Option.some.injEq] at hw
    exact ⟨[], by rw [← hw, List.append_nil]⟩
  rw [if_neg hempty] at hw
  simp only [Option.bind_eq_some_iff] at hw
  obtain ⟨base, -, hw⟩ := hw
  by_cases hnull : tx.rctSignatures.type = rctTypeNull
  · rw [if_pos hnull, Option.pure_def, Option.some.injEq] at hw
    exact ⟨base, hw.symm⟩
  · rw [if_neg hnull] at hw
    simp only [Option.bind_eq_some_iff, Option.pure_def, Option.some.injEq] at hw
    obtain ⟨pr, -, rfl⟩ := hw
    exact ⟨base ++ pr, List.append_assoc _ _ _⟩

/-- A transaction is written starting with its version, one byte below `0x80`:
the writer refuses versions above `MAX_TRANSACTION_VERSION`. -/
theorem writeTransaction_head {tx : Transaction} {bs : List UInt8}
    (hw : writeTransaction tx = some bs) : ∃ b tail, bs = b :: tail ∧ b < 0x80 := by
  obtain ⟨pfx, hpfx, tail, rfl⟩ := writeTransaction_prefix hw
  obtain ⟨hv, rfl⟩ := writeTransactionPrefix_eq_some.mp hpfx
  have hle : tx.version.toNat < 0x80 := by
    have : ¬tx.version > maxTransactionVersion := fun h => hv (Or.inr h)
    rw [maxTransactionVersion, gt_iff_lt, UInt64.lt_iff_toNat_lt, not_lt] at this
    exact Nat.lt_of_le_of_lt this (by decide)
  have hbyte : tx.version.toNat.toUInt8 < 0x80 := by
    rw [UInt8.lt_iff_toNat_lt]
    simpa using Nat.lt_of_le_of_lt (Nat.mod_le _ _) hle
  rw [writeVarint64, writeVarint_of_lt hle]
  simp only [List.append_assoc, List.singleton_append]
  exact ⟨_, _, rfl, hbyte⟩

/-- A miner transaction of version 2: a `txin_gen`, one output to a key and a
null ring signature, which the format writes as its type alone. -/
def minerTxV2 : Transaction :=
  { version := 2, unlockTime := 60, vin := [.gen ⟨1⟩], vout := [⟨100, .toKey ⟨Pod.zero 32⟩⟩]
    extra := [1], signatures := [], rctSignatures := RctSig.null }

/-- An unsigned version 1 transaction spending a ring of one output. -/
def unsignedTx : Transaction :=
  { version := 1, unlockTime := 0, vin := [.toKey ⟨0, [0], Pod.zero 32⟩], vout := [], extra := []
    signatures := [], rctSignatures := RctSig.null }

end RoundTrip

/-! ## Padded varints -/

section Padding

theorem run_serializeVarint64_padded {v : UInt8} (hv : v < 0x80) (rest : List UInt8) :
    serializeVarint64.run ((v ||| 0x80) :: 0 :: rest) = serializeVarint64.run (v :: rest) := by
  rw [serializeVarint64, StateT.run_map, StateT.run_map, run_serializeUvarint_padded (by decide) hv]

/-- **The binary format is not canonical.** A blob whose version is the single
byte `v` parses into any `t₀` as the blob with that byte padded to two (`v | 0x80`,
then a zero byte, which `read_varint` rejects with `EVARINT_REPRESENT` and
`serialize_uvarint` ignores); and no transaction is written starting with a
byte of the high bit, so re-serializing what the padded blob parses to never
gives it back. -/
theorem parseBinary_padded_version (t₀ : Transaction) {v : UInt8} (hv : v < 0x80)
    (rest : List UInt8) :
    parseBinary serializeTransaction ((v ||| 0x80) :: 0 :: rest) t₀ =
        parseBinary serializeTransaction (v :: rest) t₀ ∧
      ∀ tx, writeTransaction tx ≠ some ((v ||| 0x80) :: 0 :: rest) := by
  constructor
  · -- the version is the first thing read, and both inputs give it with the same rest
    have hpfx : serializeTransactionPrefix.run ((v ||| 0x80) :: 0 :: rest) =
        serializeTransactionPrefix.run (v :: rest) := by
      rw [serializeTransactionPrefix, StateT.run_bind, StateT.run_bind,
        run_serializeVarint64_padded hv]
    have htx : (serializeTransaction t₀).run ((v ||| 0x80) :: 0 :: rest) =
        (serializeTransaction t₀).run (v :: rest) := by
      rw [serializeTransaction, StateT.run_bind, StateT.run_bind, hpfx]
    simp only [parseBinary, readAll, htx]
  · intro tx hw
    obtain ⟨b, tail, hbs, hb⟩ := writeTransaction_head hw
    rw [List.cons.injEq] at hbs
    have hhigh : (v ||| 0x80).toNat = v.toNat + 128 := by
      have h : (0x80 : UInt8).toNat = 2 ^ 7 := rfl
      rw [UInt8.toNat_or, h, Nat.or_two_pow_eq_add_of_lt (UInt8.lt_iff_toNat_lt.mp hv)]
    rw [← hbs.1, UInt8.lt_iff_toNat_lt, hhigh] at hb
    exact absurd hb (by simp)

/-- The blob of a version 2 transaction with nothing in it, and the same with
its version padded: both parse, to one transaction. -/
theorem parseBinary_padded_version_two :
    (2 : UInt8) < 0x80 ∧
      parseBinary serializeTransaction [2, 0, 0, 0, 0] (Transaction.setNull default) =
        some { Transaction.setNull default with version := 2 } ∧
      parseBinary serializeTransaction ((2 ||| 0x80) :: 0 :: [0, 0, 0, 0]) (Transaction.setNull default) =
        parseBinary serializeTransaction (2 :: [0, 0, 0, 0]) (Transaction.setNull default) :=
  ⟨by decide, by decide, (parseBinary_padded_version (Transaction.setNull default) (by decide) _).1⟩

end Padding

end Ombre
