/-
Module: RockSolid.Semantics.KeyIdentity
Layer: Semantics
Purpose: Sequences of puts and deletes issued through a store on one column
  family, and the value a key should have after them, for a given notion of
  which keys are the same.  And concrete natural orders to try it on.
Trusted boundary: a statement of intent
Main exports: KeyOp, KeyOp.run, runKeyOps, lastPut, KeepsKeys, sortsBefore,
  NaturalOrders.FoldsCase, tokenOrders, tokenOrders_transCmp
-/
import RockSolid.Core.Comparator
import RockSolid.Core.Stores

namespace RockSolid

open Foundation

/-- A put or a delete of an arbitrary byte-string key. -/
inductive KeyOp where
  | put (key value : Bytes)
  | delete (key : Bytes)
deriving DecidableEq, Repr

def KeyOp.key : KeyOp → Bytes
  | .put key _ | .delete key => key

variable {cmps : String → Comparator}

/-- The operation through the store's own methods. -/
def KeyOp.run (access : CfAccess) (cf : String) :
    KeyOp → Method StoreError (Db cmps) Unit
  | .put key value => CFOperations.putRaw access cf key value none
  | .delete key => CFOperations.delete access cf key none

/-- A sequence of operations, oldest first. -/
def runKeyOps (access : CfAccess) (cf : String) (ops : List KeyOp)
    (data : Db cmps) : Db cmps :=
  ops.foldl (fun data op => (op.run access cf data).2) data

/-- What one operation makes of the value of the keys `same` selects. -/
def KeyOp.update (same : Bytes → Bool) (found : Option Bytes) :
    KeyOp → Option Bytes
  | .put key value => if same key then some value else found
  | .delete key => if same key then none else found

/-- The value most recently put under one of the selected keys and not deleted
since. -/
def lastPut (same : Bytes → Bool) (ops : List KeyOp) : Option Bytes :=
  ops.foldl (KeyOp.update same) none

/-- Keys are told apart by their bytes: every get returns what was last put
under exactly the byte string asked for. -/
def KeepsKeys (orders : NaturalOrders) (opt : RockSolidComparatorOpt) : Prop :=
  ∀ (access : CfAccess) (cf : String), access.family cf = .ok cf →
    ∀ (ops : List KeyOp) (key : Bytes),
      CFOperations.getRaw access cf key
        (runKeyOps access cf ops
          (Db.empty : Db (installedComparators orders fun _ => opt))) none =
        .ok (lastPut (· == key) ops)

/-- Below the prefix under the comparator of the family. -/
abbrev sortsBefore (orders : NaturalOrders)
    (choice : String → RockSolidComparatorOpt) (cf prefixKey : String)
    (entry : Bytes × Bytes) : Bool :=
  installedComparator orders (choice cf) entry.1
    (AsBytes.asBytes prefixKey) == .lt

/-- Strings that differ in letter case only are equal under the
case-insensitive orders. -/
structure NaturalOrders.FoldsCase (orders : NaturalOrders) : Prop where
  natord : ∀ a b : String, a.toList.map Char.toLower = b.toList.map Char.toLower →
    orders.natordCompareIgnoreCase a b = .eq
  natLex : ∀ a b : String, a.toList.map Char.toLower = b.toList.map Char.toLower →
    orders.natLexByteCmpIgnore (AsBytes.asBytes a) (AsBytes.asBytes b) = .eq

/-- Splits a text into tokens: a maximal digit run counts as its numeric value,
and sorts before every other character. -/
def naturalTokens (text : List Char) : List (List Nat) :=
  let flush (run : Option (Nat × Nat)) (tokens : List (List Nat)) :=
    match run with
    | none => tokens
    | some (value, _) => [0, value] :: tokens
  let (run, tokens) := text.foldr
    (fun c (run, tokens) =>
      if c.isDigit then
        let (value, scale) := run.getD (0, 1)
        (some ((c.toNat - '0'.toNat) * scale + value, scale * 10), tokens)
      else (none, [1, c.toNat] :: flush run tokens))
    ((none : Option (Nat × Nat)), ([] : List (List Nat)))
  flush run tokens

/-- A concrete instance of the orders, on the tokens of the text. -/
def tokenOrders : NaturalOrders where
  natordCompare a b :=
    compare (naturalTokens a.toList) (naturalTokens b.toList)
  natordCompareIgnoreCase a b :=
    compare (naturalTokens (a.toList.map Char.toLower))
      (naturalTokens (b.toList.map Char.toLower))
  natLexByteCmp a b :=
    compare (naturalTokens (utf8OrEmpty a).toList)
      (naturalTokens (utf8OrEmpty b).toList)
  natLexByteCmpIgnore a b :=
    compare (naturalTokens ((utf8OrEmpty a).toList.map Char.toLower))
      (naturalTokens ((utf8OrEmpty b).toList.map Char.toLower))

/-- An order pulled back along a map of the keys. -/
theorem transCmp_pullback {A B : Type} {cmp : B → B → Ordering}
    (lawful : Std.TransCmp cmp) (key : A → B) :
    Std.TransCmp fun a b => cmp (key a) (key b) where
  eq_swap := Std.OrientedCmp.eq_swap
  isLE_trans := Std.TransCmp.isLE_trans

/-- Whatever is chosen, the tokens are compared: those of the text, or of the text
in lower case. -/
theorem tokenOrders_transCmp (opt : RockSolidComparatorOpt) :
    Std.TransCmp (installedComparator tokenOrders opt) := by
  have cased : Std.TransCmp fun a b : Bytes =>
      compare (naturalTokens (utf8OrEmpty a).toList)
        (naturalTokens (utf8OrEmpty b).toList) :=
    transCmp_pullback inferInstance fun a : Bytes =>
      naturalTokens (utf8OrEmpty a).toList
  have folded : Std.TransCmp fun a b : Bytes =>
      compare (naturalTokens ((utf8OrEmpty a).toList.map Char.toLower))
        (naturalTokens ((utf8OrEmpty b).toList.map Char.toLower)) :=
    transCmp_pullback inferInstance fun a : Bytes =>
      naturalTokens ((utf8OrEmpty a).toList.map Char.toLower)
  cases opt with
  | none => exact inferInstanceAs (Std.TransCmp compare)
  | naturalLexicographical ignoreCase =>
      cases ignoreCase
      · exact cased
      · exact folded
  | natural ignoreCase =>
      cases ignoreCase
      · exact cased
      · exact folded

/-- Decoding inverts the byte encoding of a text. -/
theorem fromUtf8_asBytes (text : String) :
    fromUtf8 (AsBytes.asBytes text) = some text := by
  have whole : (⟨(AsBytes.asBytes text : Bytes).toArray⟩ : ByteArray) =
      text.toByteArray := rfl
  rw [fromUtf8, whole, String.fromUTF8?, dif_pos text.isValidUTF8]
  rfl

theorem tokenOrders_foldsCase : tokenOrders.FoldsCase where
  natord a b same := by
    simp [tokenOrders, same]
  natLex a b same := by
    simp [tokenOrders, utf8OrEmpty, fromUtf8_asBytes, same]

end RockSolid
