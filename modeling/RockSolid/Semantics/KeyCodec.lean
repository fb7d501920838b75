/-
Module: RockSolid.Semantics.KeyCodec
Layer: Semantics
Purpose: The key types a search can be asked for, bytevec's format for byte
  vectors, and what a search returns of the keys that were written.
Trusted boundary: a statement of intent
Main exports: BuiltinKey, SequenceFormat, sequenceU8, Store.putAll,
  Store.keptByPrefix, Store.keptFrom, HoldsWritten, ReturnsWritten
-/
import RockSolid.Semantics.ReferenceScan
import RockSolid.Semantics.VisitedSearch

namespace RockSolid

open Foundation

/-- The owned types that are `AsBytes` and `ByteDecodable`. -/
inductive BuiltinKey where
  | string
  | vecU8
deriving DecidableEq, Repr

namespace BuiltinKey

/-- `String` and `Vec<u8>`. -/
def Carrier : BuiltinKey → Type
  | .string => String
  | .vecU8 => Bytes

instance (keyType : BuiltinKey) : AsBytes keyType.Carrier :=
  match keyType with
  | .string => inferInstanceAs (AsBytes String)
  | .vecU8 => inferInstanceAs (AsBytes Bytes)

instance [ByteDecodable String] [ByteDecodable Bytes] (keyType : BuiltinKey) :
    ByteDecodable keyType.Carrier :=
  match keyType with
  | .string => inferInstanceAs (ByteDecodable String)
  | .vecU8 => inferInstanceAs (ByteDecodable Bytes)

end BuiltinKey

/-- bytevec's format of a sequence at size type `u8`: the number of elements,
the size of each, and the data of the elements. -/
def SequenceFormat (codec : ByteDecodable Bytes) : Prop :=
  ∀ bytes elements, codec.decode bytes = .ok elements →
    ∃ count sizes data, bytes = count :: (sizes ++ data) ∧
      count.toNat = elements.length ∧ sizes.length = elements.length

/-- Decodes a `Vec<u8>` in that format: every element is one byte. -/
def decodeSequence : Bytes → Except String Bytes
  | [] => .error "no element count"
  | count :: rest =>
      let sizes := rest.take count.toNat
      let data := rest.drop count.toNat
      if sizes = List.replicate count.toNat 1 ∧ data.length = count.toNat then
        .ok data
      else .error "element sizes do not match the data"

@[reducible] def sequenceU8 : ByteDecodable Bytes := ⟨decodeSequence⟩

theorem sequenceU8_format : SequenceFormat sequenceU8 := by
  intro bytes elements (decoded : decodeSequence bytes = .ok elements)
  cases bytes with
  | nil => cases decoded
  | cons count rest =>
      simp only [decodeSequence] at decoded
      split at decoded
      · next sized =>
          cases decoded
          refine ⟨count, rest.take count.toNat, rest.drop count.toNat, ?_,
            sized.2.symm, ?_⟩
          · rw [List.take_append_drop]
          · rw [sized.1, List.length_replicate, sized.2]
      · cases decoded

variable {cmps : String → Comparator} {K V : Type} [AsBytes K]

namespace Store

variable (store : Store) (cfName : String)

/-- One `put` after the other, until one fails. -/
def putAll [Serialize V] (writes : List (K × V)) :
    Method StoreError (Db cmps) Unit :=
  writes.forM fun write => store.put cfName write.1 none write.2

variable (data : Db cmps)

/-- The entries a search by prefix keeps: from the prefix to the first key
without it. -/
def keptByPrefix (prefixKey : K) : List (Bytes × Bytes) :=
  ((store.entries cfName data).dropWhile fun entry =>
    cmps (store.asked cfName) entry.1 (AsBytes.asBytes prefixKey) == .lt).takeWhile
      (hasPrefix (AsBytes.asBytes prefixKey))

/-- The entries a search from a key keeps: those its control function keeps on
the walk from the key. -/
def keptFrom {S : Type} (startKey : K) (direction : Direction)
    (controlFn : ControlFn S) (captured : S) : List (Bytes × Bytes) :=
  (referenceScan none (some controlFn) none
    ((IteratorMode.fromKey (AsBytes.asBytes startKey) direction).shows
      (cmps (store.asked cfName)) (store.entries cfName data)) 0 captured).kept

end Store

/-- The entries are what the writes have left: each holds a key and a value that
were written together, and every key that was written has its entry. -/
structure HoldsWritten [Serialize V] (cmp : Comparator)
    (entries : List (Bytes × Bytes)) (writes : List (K × V)) : Prop where
  written : ∀ entry ∈ entries, ∃ write ∈ writes,
    AsBytes.asBytes write.1 = entry.1 ∧ serializeValue write.2 = .ok entry.2
  complete : ∀ write ∈ writes, ∃ entry ∈ entries,
    cmp entry.1 (AsBytes.asBytes write.1) = .eq

/-- A search returns the entries it kept, with the very keys and values that were
written. -/
def ReturnsWritten (kept : List (Bytes × Bytes)) (writes : List (K × V))
    (result : StoreResult (List (K × V))) : Prop :=
  ∃ found, result = .ok found ∧
    found.map (fun item => AsBytes.asBytes item.1) = kept.map Prod.fst ∧
    ∀ item ∈ found, item ∈ writes

end RockSolid
