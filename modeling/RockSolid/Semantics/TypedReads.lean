/-
Module: RockSolid.Semantics.TypedReads
Layer: Semantics
Purpose: Decoders that take one value from the front of the bytes and say what
  they have left, and histories in which a key is put and then merged.
Trusted boundary: a statement of intent; `FrontDecoder` stands for rmp-serde
Main exports: FrontDecoder, SelfDelimiting, MergesOnly,
  PutThenMerged, RockSolidMergeOperatorCfConfig.DefaultsAt
-/
import RockSolid.Core.Merge
import RockSolid.Semantics.WriteHistory

namespace RockSolid

/-- A decoder of one value from the front of a slice: the value, and the bytes
after it, which it does not look at. -/
class FrontDecoder (V : Type) where
  decodeFront : Bytes → Except String (V × Bytes)
  front : ∀ {bytes : Bytes} {val : V} {rest : Bytes},
    decodeFront bytes = .ok (val, rest) → rest <:+ bytes

/-- `Deserialize::deserialize` on a deserializer over the slice. -/
instance {V : Type} [FrontDecoder V] : DeserializeOwned V where
  deserialize bytes := (FrontDecoder.decodeFront bytes).map Prod.fst

/-- The encoding of a value tells where it ends. -/
def SelfDelimiting (V : Type) [Serialize V] [FrontDecoder V] : Prop :=
  ∀ (val : V) (bytes rest : Bytes), Serialize.serialize val = .ok bytes →
    FrontDecoder.decodeFront (bytes ++ rest) = .ok (val, rest)

/-- A decoder of small numbers: MessagePack writes those below 128 as one
byte. -/
def decodeByte : Bytes → Except String (UInt8 × Bytes)
  | [] => .error "no byte to decode"
  | byte :: rest => .ok (byte, rest)

@[reducible] def byteDecoder : FrontDecoder UInt8 where
  decodeFront := decodeByte
  front {bytes val rest} decoded := by
    cases bytes with
    | nil => cases decoded
    | cons byte others =>
        cases decoded
        exact List.suffix_cons val rest

/-- Of the writes those to the key are merges, of these operands in order. -/
inductive MergesOnly (cmps : String → Comparator) (at_ : CfKey) :
    List WriteOp → List Bytes → Prop where
  | nil : MergesOnly cmps at_ [] []
  | other {op : WriteOp} {ops : List WriteOp} {operands : List Bytes}
      (differs : ¬ SameKey cmps op.target at_)
      (rest : MergesOnly cmps at_ ops operands) :
      MergesOnly cmps at_ (op :: ops) operands
  | merge {target : CfKey} {operand : Bytes} {ops : List WriteOp}
      {operands : List Bytes} (same : SameKey cmps target at_)
      (rest : MergesOnly cmps at_ ops operands) :
      MergesOnly cmps at_ (.merge target operand :: ops) (operand :: operands)

/-- The key was put, and since then at most merged. -/
def PutThenMerged (cmps : String → Comparator) (ops : List WriteOp)
    (at_ : CfKey) (value : Bytes) (operands : List Bytes) : Prop :=
  ∃ before target after, ops = before ++ .put target value :: after ∧
    SameKey cmps target at_ ∧ MergesOnly cmps at_ after operands

/-- The operator applies the default full merge to the key: it was configured
without a function, or it is the router and no route matches the key. -/
inductive RockSolidMergeOperatorCfConfig.DefaultsAt
    (config : RockSolidMergeOperatorCfConfig) (key : Bytes) : Prop where
  | unset (noFunction : config.fullMergeFn = none)
  | unrouted (fullMergeRouter : Router MergeRouteHandlerFn)
      (routed : config.fullMergeFn = some (routerFullMergeFn fullMergeRouter))
      (noRoute : ∀ keyStr, fromUtf8 key = some keyStr →
        fullMergeRouter keyStr = none)

end RockSolid
