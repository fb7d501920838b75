/-
Module: RockSolid.Proofs.ComparatorSearch
Layer: Proofs
Purpose: When a prefix search is complete under an installed comparator.  The
  scan starts at the prefix and stops at the first foreign key, so it finds all
  keys with the prefix exactly when the comparator leaves no gap in them.  The
  natural order leaves one: `a2` lies between `a1` and `a10`.
Trusted boundary: none
Main exports: findByPrefix_finds_set_iff_noGap, natural_search_misses_a10
-/
import Mathlib.Data.List.Perm.Subperm
import Mathlib.Data.List.TakeWhile
import RockSolid.Proofs.PrefixSearch
import RockSolid.Semantics.KeyIdentity

namespace RockSolid

open Foundation

theorem FindsExactly.findsSet {K V : Type} [ByteDecodable K]
    [DeserializeOwned V] {entries : List (Bytes × Bytes)}
    {prefixBytes : Bytes} {result : StoreResult (List (K × V))}
    (finds : FindsExactly entries prefixBytes result) :
    FindsSet entries prefixBytes result where
  decodable decoded decodes := by
    refine ⟨_, finds.decodable decoded decodes, fun item => ?_⟩
    simp only [List.mem_map, List.mem_filter, and_assoc]
  undecodable := finds.undecodable

/-- Valid UTF-8 is the encoding of the text it decodes to. -/
theorem asBytes_of_fromUtf8 {bytes : Bytes} {text : String}
    (decoded : fromUtf8 bytes = some text) : AsBytes.asBytes text = bytes := by
  rw [fromUtf8, String.fromUTF8?] at decoded
  split at decoded
  · cases decoded
    rfl
  · cases decoded

/-- The entry with its key as text and its value as it is. -/
def asText (entry : Bytes × Bytes) : String × Bytes :=
  (utf8OrEmpty entry.1, entry.2)

/-- Entries with UTF-8 keys are determined by their text. -/
theorem asText_injective {entry other : Bytes × Bytes}
    (utf8 : (fromUtf8 entry.1).isSome = true)
    (otherUtf8 : (fromUtf8 other.1).isSome = true)
    (same : asText entry = asText other) : entry = other := by
  rcases Option.isSome_iff_exists.mp utf8 with ⟨text, found⟩
  rcases Option.isSome_iff_exists.mp otherUtf8 with ⟨otherText, otherFound⟩
  rcases Prod.mk.inj same with ⟨sameText, sameValue⟩
  rw [utf8OrEmpty, utf8OrEmpty, found, otherFound] at sameText
  have sameKey : entry.1 = other.1 := by
    rw [← asBytes_of_fromUtf8 found, ← asBytes_of_fromUtf8 otherFound]
    exact congrArg AsBytes.asBytes sameText
  exact Prod.ext sameKey sameValue

/-- A scan that loses no entry as a set loses none as a list. -/
theorem scan_eq_filter_of_subset {entries : List (Bytes × Bytes)}
    {skipped inBlock : Bytes × Bytes → Bool} (distinct : entries.Nodup)
    (covers : ∀ entry ∈ entries, inBlock entry = true →
      entry ∈ (entries.dropWhile skipped).takeWhile inBlock) :
    (entries.dropWhile skipped).takeWhile inBlock = entries.filter inBlock := by
  have scanned : ((entries.dropWhile skipped).takeWhile inBlock).Sublist
      entries :=
    (List.takeWhile_sublist _).trans (List.dropWhile_sublist _)
  have inside : ((entries.dropWhile skipped).takeWhile inBlock).filter inBlock =
      (entries.dropWhile skipped).takeWhile inBlock :=
    List.filter_eq_self.mpr fun entry member =>
      List.mem_takeWhile_imp member
  have part := scanned.filter inBlock
  rw [inside] at part
  apply part.eq_of_length_le
  refine (List.subperm_of_subset (distinct.filter inBlock) ?_).length_le
  intro entry member
  rcases List.mem_filter.mp member with ⟨stored, hit⟩
  exact covers entry stored hit

section Installed

variable [keys : ByteDecodable String] (orders : NaturalOrders)
  (choice : String → RockSolidComparatorOpt) (searchable : PrefixSearchable)
  (data : Db (installedComparators orders choice)) (cf prefixKey : String)

/-- The search finds the set of entries under the prefix, whatever the value
codec, exactly when the installed comparator sorts none of them before the
prefix and puts no foreign key between the prefix and one of them. -/
theorem findByPrefix_finds_set_iff_noGap (texts : DecodesUtf8 keys)
    (order : Std.TransCmp (installedComparator orders (choice cf)))
    (opens : searchable.Opens cf) (readable : searchable.Readable data cf)
    (utf8 : ∀ entry ∈ searchable.entries data cf,
      (fromUtf8 entry.1).isSome = true) :
    CompleteSearch searchable data cf prefixKey ↔
      NoGap (sortsBefore orders choice cf prefixKey)
        (hasPrefix (AsBytes.asBytes prefixKey))
        (searchable.entries data cf) := by
  have ascending := searchable.db.entries_sorted (searchable.sees data) cf
  have seeks := below_leads ascending (AsBytes.asBytes prefixKey)
  constructor
  · rintro ⟨finds⟩
    have distinct : (searchable.entries data cf).Nodup :=
      ascending.imp fun {a b} before same => by
        subst same
        have itself : installedComparators orders choice cf a.1 a.1 = .eq :=
          Std.ReflCmp.compare_self
        rw [itself] at before
        cases before
    refine (scan_eq_filter_iff seeks).mp (scan_eq_filter_of_subset distinct ?_)
    intro entry stored inside
    let codec : DeserializeOwned Bytes := ⟨.ok⟩
    have decodes : ∀ entry ∈ searchable.entries data cf,
        decodeEntry (K := String) (V := Bytes) entry =
          .ok (asText entry) := by
      intro entry stored
      rcases Option.isSome_iff_exists.mp (utf8 entry stored) with ⟨text, found⟩
      have decoded := (texts entry.1 text).mpr found
      simp [decodeEntry, deserializeKv, deserializeKey, deserializeValue,
        decoded, DeserializeOwned.deserialize, codec, asText, utf8OrEmpty,
        found, Except.mapError, bind, Except.bind, pure, Except.pure]
    rcases (finds Bytes).decodable asText
      (fun entry stored _ => decodes entry stored) with ⟨found, answer, members⟩
    have scanned := findByPrefix_eq_scan (V := Bytes) searchable data prefixKey
      .forward opens readable
    have part : ((searchable.entries data cf).dropWhile
        (sortsBefore orders choice cf prefixKey)).takeWhile
          (hasPrefix (AsBytes.asBytes prefixKey)) ⊆
            searchable.entries data cf :=
      ((List.takeWhile_sublist _).trans (List.dropWhile_sublist _)).subset
    rw [scanned, mapM_decodeEntry_ok fun other member =>
      decodes other (part member)] at answer
    cases answer
    have returned := (members (asText entry)).mpr ⟨entry, stored, inside, rfl⟩
    rcases List.mem_map.mp returned with ⟨other, member, same⟩
    have identical : other = entry := asText_injective
      (utf8 other (part member)) (utf8 entry stored) same
    exact identical ▸ member
  · intro noGap
    refine ⟨fun V codec => ?_⟩
    have block := (scan_eq_filter_iff seeks).mpr noGap
    have scanned := findByPrefix_eq_scan (V := V) searchable data prefixKey
      .forward opens readable
    rw [scanned]
    exact (block ▸ findsExactly_mapM _ _).findsSet

end Installed

/-- A naturally ordered family with the keys `a1`, `a2` and `a10`. -/
def numberedItems : Db (installedComparators tokenOrders fun _ =>
    .natural false) :=
  Db.empty.applyAll [.put ⟨"items", [97, 49]⟩ [1], .put ⟨"items", [97, 50]⟩ [2],
    .put ⟨"items", [97, 49, 48]⟩ [10]]

/-- A store with that family open. -/
def itemsStore : PrefixSearchable :=
  .cfStore ⟨⟨["items"], fun _ _ _ _ => none⟩⟩

/-- For the prefix `a` the numbered items have no gap. -/
theorem findByPrefix_finds_set_iff_noGap_items :
    let _keys : ByteDecodable String := utf8Keys
    CompleteSearch itemsStore numberedItems "items" "a" := by
  intro _keys
  exact (findByPrefix_finds_set_iff_noGap _ _ itemsStore numberedItems "items" "a"
    utf8Keys_decodesUtf8 (tokenOrders_transCmp (.natural false)) rfl (by decide)
    (by decide)).mpr (by decide)

/-- The search for `a1` stops at `a2` and misses `a10`. -/
theorem natural_search_misses_a10 :
    ¬ ∀ (keys : ByteDecodable String) (orders : NaturalOrders)
      (choice : String → RockSolidComparatorOpt) (searchable : PrefixSearchable)
      (data : Db (installedComparators orders choice)) (cf prefixKey : String),
      DecodesUtf8 keys → Std.TransCmp (installedComparator orders (choice cf)) →
      searchable.Opens cf → searchable.Readable data cf →
      (∀ entry ∈ searchable.entries data cf,
        (fromUtf8 entry.1).isSome = true) →
      CompleteSearch searchable data cf prefixKey := by
  intro complete
  let _keys : ByteDecodable String := utf8Keys
  let codec : DeserializeOwned Bytes := ⟨.ok⟩
  have order := tokenOrders_transCmp (.natural false)
  have finds := complete utf8Keys tokenOrders (fun _ => .natural false) itemsStore
    numberedItems "items" "a1" utf8Keys_decodesUtf8 order rfl (by decide)
    (by decide)
  rcases (finds.finds Bytes).decodable asText (by decide) with ⟨found, answer, members⟩
  have opens : itemsStore.Opens "items" := rfl
  rw [findByPrefix_eq_scan (V := Bytes) itemsStore numberedItems "a1" .forward
    opens (by decide)] at answer
  have returned : found = [("a1", [1])] :=
    (Except.ok.inj ((by decide : _ = _).symm.trans answer)).symm
  have missed := (members ("a10", [10])).mpr (by decide)
  rw [returned] at missed
  revert missed
  decide

end RockSolid
