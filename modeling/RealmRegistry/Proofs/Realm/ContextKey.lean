/-
Context keys come back from their columns, and lists of them from the text that is written of them.

* `ContextKeyConfiguration.decode_encode` — the settings of a key from what is stored of them;
* `ContextKey.ofRow_eq_ok_iff` — which rows are those of a context key;
* `ContextKey.fromText_output` — a list of keys from the document in which it is printed.
-/
import RealmRegistry.Command.Run
import RealmRegistry.Proofs.Schema.Text

namespace RealmRegistry

open Schema Store

/-! ### Settings -/

namespace ContextKeyConfiguration

instance instRecoverable : Recoverable ContextKeyConfiguration :=
  .of_isCurrent (by decide) (by decide)

/-- Settings come back from what is stored of them. -/
@[simp] theorem decode_encode (c : ContextKeyConfiguration) :
    decode ContextKeyConfiguration (encode c) = .ok c :=
  Schema.decode_encode c (by decide)

end ContextKeyConfiguration

/-! ### Columns -/

theorem Store.Row.exists_columns {r : Row} (h : r.columns.length = 5) :
    ∃ a b c d e, r = ⟨[a, b, c, d, e]⟩ := by
  obtain ⟨columns⟩ := r
  match columns, h with
  | [a, b, c, d, e], _ => exact ⟨a, b, c, d, e, rfl⟩

/-- Five columns of which none is NULL are five texts. -/
theorem Store.Row.exists_texts {r : Row} (h : r.columns.length = 5)
    (hnull : ∀ c ∈ r.columns, c ≠ none) : ∃ a b c d e, r = .ofTexts [a, b, c, d, e] := by
  obtain ⟨a, b, c, d, e, rfl⟩ := Row.exists_columns h
  obtain ⟨a, rfl⟩ := Option.ne_none_iff_exists'.1 (hnull a (by simp))
  obtain ⟨b, rfl⟩ := Option.ne_none_iff_exists'.1 (hnull b (by simp))
  obtain ⟨c, rfl⟩ := Option.ne_none_iff_exists'.1 (hnull c (by simp))
  obtain ⟨d, rfl⟩ := Option.ne_none_iff_exists'.1 (hnull d (by simp))
  obtain ⟨e, rfl⟩ := Option.ne_none_iff_exists'.1 (hnull e (by simp))
  exact ⟨a, b, c, d, e, rfl⟩

namespace ContextKey

instance instRecoverable : Recoverable ContextKey :=
  .of_isCurrent (by decide) (by decide)

/-- A printed list of context keys is read as the list. -/
theorem fromText_output (keys : List ContextKey) :
    fromText (List ContextKey) (Command.Answer.document (toJson keys)).output = .ok keys := by
  have hread := fromText_write keys (some 0) Json.blanks_newline
  rwa [String.ofList_append] at hread

/-! ### Rows -/

@[simp] theorem ofRow_ok_iff {α : Type} {x : Except RowFault α} {a : α} :
    RealmRegistry.ofRow x = .ok a ↔ x = .ok a :=
  mapError_eq_ok

@[simp] theorem ofText_ok_iff {α : Type} {x : Except Complaint α} {a : α} :
    ofText x = .ok a ↔ x = .ok a :=
  mapError_eq_ok

@[simp] theorem required_ok_iff {r : Row} {index : Nat} {column text : String} :
    r.required index column = .ok text ↔ r.columns[index]? = some (some text) := by
  rw [Row.required, Row.optional]
  cases r.columns[index]? with
  | none => simp
  | some v => cases v <;> simp

/-- The rows of a context key are those of five texts, the last of which are its settings. -/
theorem ofRow_eq_ok_iff {r : Row} {k : ContextKey} :
    ContextKey.ofRow r = .ok k ↔
      ∃ stored, r = .ofTexts [k.id, k.label, k.identitiesRealm, k.customerRealm, stored] ∧
        decode ContextKeyConfiguration stored = .ok k.config := by
  constructor
  · intro h
    simp only [ContextKey.ofRow, bind_eq_ok, ofRow_ok_iff, ofText_ok_iff, required_ok_iff] at h
    obtain ⟨⟨⟩, hcount, a, ha, b, hb, c, hc, d, hd, stored, hstored, config, hconfig, heq⟩ := h
    cases heq
    refine ⟨stored, ?_, hconfig⟩
    have hlength : r.columns.length = 5 := by
      rw [Row.expectColumns] at hcount
      split at hcount
      next hlength => exact hlength
      next => cases hcount
    obtain ⟨_, _, _, _, _, rfl⟩ := Row.exists_columns hlength
    cases ha
    cases hb
    cases hc
    cases hd
    cases hstored
    rfl
  · rintro ⟨stored, rfl, hconfig⟩
    simp only [ContextKey.ofRow, bind_eq_ok, ofRow_ok_iff, ofText_ok_iff, required_ok_iff]
    exact ⟨(), rfl, k.id, rfl, k.label, rfl, k.identitiesRealm, rfl, k.customerRealm, rfl, stored,
      rfl, k.config, hconfig, rfl⟩

/-- A context key comes back from its columns. -/
@[simp] theorem ofRow_columns (k : ContextKey) : ContextKey.ofRow (.ofTexts k.columns) = .ok k :=
  ofRow_eq_ok_iff.2 ⟨_, rfl, ContextKeyConfiguration.decode_encode k.config⟩

end ContextKey

end RealmRegistry
