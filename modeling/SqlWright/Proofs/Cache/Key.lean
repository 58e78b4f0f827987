import SqlWright.Cache.ReadThrough
import SqlWright.Proofs.Json.Framing
import SqlWright.Proofs.Placeholder.Snapshot
import Mathlib.Data.Set.Function
/-! What a cache key stands for. Two queries have one key exactly when they have one text and one
map from names to values, as long as the digest keeps the texts apart that are really used. -/
namespace SqlWright

/-- What a driver is asked that reads a table as a map. -/
@[ext]
structure Query where
  sql : String
  values : String → Option Value

def Rendered.query (rendered : Rendered) : Query := ⟨rendered.sql, rendered.params.valueOf⟩

/-- Every name stands once in the table, and every scalar has a JSON text of its own. -/
structure Rendered.Cacheable (rendered : Rendered) : Prop where
  distinct : rendered.params.names.Nodup
  finite : ∀ entry ∈ rendered.params.entries, entry.2.IsFinite

section Text

private theorem digitChar_inj : ∀ first < 16, ∀ second < 16,
    Nat.digitChar first = Nat.digitChar second → first = second := by decide

theorem hexText_inj {first second : List UInt8} (same : hexText first = hexText second) :
    first = second := by
  have digits := String.ofList_inj.1 same
  clear same
  induction first generalizing second with
  | nil => cases second with
    | nil => rfl
    | cons byte rest => cases digits
  | cons byte rest ih => cases second with
    | nil => cases digits
    | cons other others =>
      simp only [List.flatMap_cons, List.cons_append, List.nil_append, List.cons.injEq] at digits
      obtain ⟨high, low, tails⟩ := digits
      have byteSmall := byte.toNat_lt
      have otherSmall := other.toNat_lt
      have highs := digitChar_inj _ (by omega) _ (by omega) high
      have lows := digitChar_inj _ (by omega) _ (by omega) low
      rw [ih tails, UInt8.toNat_inj.1 (by omega : byte.toNat = other.toNat)]

theorem bytesOfText_inj {first second : String} (same : bytesOfText first = bytesOfText second) :
    first = second := by
  have data := Array.toList_inj.1 same
  rw [← String.toByteArray_inj, ← String.toUTF8_eq_toByteArray, ← String.toUTF8_eq_toByteArray]
  exact ByteArray.ext data

end Text

variable {first second : Rendered} {keyPrefix : String}

/-- The object of the parameters is told from the text in front of it. -/
theorem cachePreimage_eq_iff : cachePreimage first = cachePreimage second ↔
    first.sql = second.sql ∧ Json.ofTable first.params = Json.ofTable second.params := by
  constructor
  · intro same
    have texts := congrArg String.toList same
    simp only [cachePreimage, String.toList_append] at texts
    obtain ⟨sql, params⟩ := (Json.isFlatObject_ofTable first.params).append_inj
      (Json.isFlatObject_ofTable second.params) texts
    exact ⟨String.toList_inj.1 sql, String.toList_inj.1 params⟩
  · rintro ⟨sql, params⟩
    rw [cachePreimage, cachePreimage, sql, params]

/-- The text that is digested gives back the statement and its parameters. -/
theorem query_of_cachePreimage_eq (firstCacheable : first.Cacheable)
    (secondCacheable : second.Cacheable) (same : cachePreimage first = cachePreimage second) :
    first.query = second.query := by
  obtain ⟨sql, params⟩ := cachePreimage_eq_iff.1 same
  have snapshots := Json.snapshot_of_ofTable_eq firstCacheable.finite secondCacheable.finite params
  exact Query.ext sql
    ((Table.snapshot_eq_iff firstCacheable.distinct secondCacheable.distinct).1 snapshots)

theorem cachePreimage_of_query_eq (firstCacheable : first.Cacheable)
    (secondCacheable : second.Cacheable) (same : first.query = second.query) :
    cachePreimage first = cachePreimage second := by
  have snapshots := (Table.snapshot_eq_iff firstCacheable.distinct secondCacheable.distinct).2
    (congrArg Query.values same)
  have sql : first.sql = second.sql := congrArg Query.sql same
  rw [cachePreimage, cachePreimage, sql, Json.ofTable, Json.ofTable, snapshots]

/-- Of the parameters a key depends on nothing but the last value under each name. -/
theorem cacheKey_eq_of_lastValueOf_eq {rearranged : Table}
    (same : rearranged.lastValueOf = first.params.lastValueOf) :
    cacheKey keyPrefix ⟨first.sql, rearranged⟩ = cacheKey keyPrefix first := by
  have object : Json.ofTable rearranged = Json.ofTable first.params := by
    rw [Json.ofTable, Json.ofTable, Table.snapshot_eq_of_lastValueOf_eq same]
  have preimage : cachePreimage ⟨first.sql, rearranged⟩ = cachePreimage first :=
    cachePreimage_eq_iff.2 ⟨rfl, object⟩
  rw [cacheKey, cacheKey, preimage]

/-- The bytes that a key is digested from are equal exactly where the texts of the statements are
and, sorted by name, the parameters with their values written out. So a text that ends in the
beginning of another statement's parameters is no confusion, and only the last value given
to each name counts, not the order of the names. -/
theorem preimageBytes_eq_iff (first second : Rendered) :
    ∃ firstListing secondListing : List (String × Value),
      (∀ listing, first.params.SortedAs listing ↔ listing = firstListing) ∧
      (∀ listing, second.params.SortedAs listing ↔ listing = secondListing) ∧
      (bytesOfText (cachePreimage first) = bytesOfText (cachePreimage second) ↔
        first.sql = second.sql ∧
          Json.memberTexts firstListing = Json.memberTexts secondListing) ∧
      (∀ absorbed rest : String, absorbed ≠ "" → first.sql = second.sql ++ absorbed →
        Json.ofTable second.params = absorbed ++ rest → Json.ofTable first.params ≠ rest) ∧
      (∀ (keyPrefix : String) (rearranged : Table),
        rearranged.lastValueOf = first.params.lastValueOf →
          cacheKey keyPrefix ⟨first.sql, rearranged⟩ = cacheKey keyPrefix first) ∧
      ∀ (keyPrefix : String) (rearranged : Table),
        first.params.names.Nodup → rearranged.entries.Perm first.params.entries →
          cacheKey keyPrefix ⟨first.sql, rearranged⟩ = cacheKey keyPrefix first := by
  refine ⟨first.params.snapshot, second.params.snapshot, fun _ => Table.sortedAs_iff,
    fun _ => Table.sortedAs_iff, ?_, ?_, fun _ _ => cacheKey_eq_of_lastValueOf_eq, ?_⟩
  · rw [← Json.ofTable_eq_iff, ← cachePreimage_eq_iff]
    exact ⟨bytesOfText_inj, congrArg bytesOfText⟩
  · intro absorbed rest nonempty absorbs object same
    have texts : cachePreimage first = cachePreimage second := by
      rw [cachePreimage, cachePreimage, absorbs, object, same, String.append_assoc]
    have sql := (cachePreimage_eq_iff.1 texts).1
    exact nonempty (String.append_right_inj _ |>.1 (absorbs.symm.trans (by simpa using sql)))
  · intro keyPrefix rearranged distinct permuted
    exact cacheKey_eq_of_lastValueOf_eq (Table.lastValueOf_eq_of_perm permuted distinct)

/-- The digest keeps apart the texts that these statements are cached by. -/
def CollisionFree (used : Set Rendered) : Prop :=
  Set.InjOn Sha256.digest ((fun rendered => bytesOfText (cachePreimage rendered)) '' used)

/-- Keys are equal exactly where the queries are. -/
theorem cacheKey_eq_iff {used : Set Rendered} (collisionFree : CollisionFree used)
    (cacheable : ∀ rendered ∈ used, rendered.Cacheable) (firstUsed : first ∈ used)
    (secondUsed : second ∈ used) :
    cacheKey keyPrefix first = cacheKey keyPrefix second ↔ first.query = second.query := by
  constructor
  · intro same
    have digests := hexText_inj (String.append_right_inj _ |>.1 same)
    have texts := bytesOfText_inj (collisionFree (Set.mem_image_of_mem _ firstUsed)
      (Set.mem_image_of_mem _ secondUsed) digests)
    exact query_of_cachePreimage_eq (cacheable first firstUsed) (cacheable second secondUsed) texts
  · intro same
    rw [cacheKey, cacheKey,
      cachePreimage_of_query_eq (cacheable first firstUsed) (cacheable second secondUsed) same]

end SqlWright
