/-
Stored records come back from every text that is written of them.

A record is written as it is stored, over several lines, and as it is printed for a caller.  From
any of these texts the same record is read, so an unset field, false and what is empty are told
apart.  A configuration only loses its superseded field, which is never written.

* `RealmConfiguration.settled_iff` — what is lost of a configuration;
* `ComesBack` — reading undoes writing, for one type of records;
* `records_come_back` — for all of them, also where two are printed together.
-/
import RealmRegistry.Proofs.Realm.ContextKey

namespace RealmRegistry

open Schema

/-! ### Records that lose nothing -/

instance instRecoverableAccreditation : Recoverable Accreditation :=
  .of_isCurrent (by decide) (by decide)

instance instRecoverableAdminConfiguration : Recoverable AdminConfiguration :=
  .of_isCurrent (by decide) (by decide)

/-! ### Configurations -/

namespace RealmConfiguration

theorem settled_unset {α : Type} (v : Option α) : ∀ a, v = some a → True := fun _ _ => trivial

/-- A configuration without its superseded field. -/
def withoutMailEditing (c : RealmConfiguration) : RealmConfiguration :=
  { c with selfMailEditing := none }

/-- Only the superseded field is never written. -/
theorem settled_iff {c : RealmConfiguration} :
    (Shaped.shape RealmConfiguration).Settled (Shaped.pack c) ↔ c.selfMailEditing = none := by
  constructor
  · intro h
    exact h.2.2.2.2.1
  · intro h
    exact ⟨settled_unset _, settled_unset _, settled_unset _, settled_unset _, h, settled_unset _,
      settled_unset _, settled_unset _, settled_unset _, settled_unset _, settled_unset _,
      settled_unset _, fun _ _ _ _ => trivial, settled_unset _, settled_unset _, trivial⟩

theorem toJson_withoutMailEditing (c : RealmConfiguration) :
    toJson c.withoutMailEditing = toJson c :=
  rfl

theorem normalize_withoutMailEditing (c : RealmConfiguration) :
    c.withoutMailEditing.normalize = c.withoutMailEditing := by
  cases c
  simp [normalize, withoutMailEditing]

/-- A configuration is as it is kept exactly if its superseded field is unset. -/
theorem normalize_eq_self_iff {c : RealmConfiguration} :
    c.normalize = c ↔ c.withoutMailEditing = c := by
  constructor
  · intro h
    rw [← h]
    rfl
  · intro h
    rw [← h]
    exact normalize_withoutMailEditing c

end RealmConfiguration

/-! ### Texts -/

/-- The texts of a record: as it is stored, over several lines, and as it is printed. -/
def textsOf {α : Type} [Shaped α] (a : α) : List String :=
  [encode a, (toJson a).pretty, (Command.Answer.document (toJson a)).output]

theorem toList_output_document (v : Json) :
    (Command.Answer.document v).output.toList = Json.write (some 0) v ++ ['\n'] := by
  show (v.pretty ++ "\n").toList = _
  rw [String.toList_append, Json.pretty, String.toList_ofList]
  rfl

/-- Each text of a record is written on one line or over several, with nothing but blanks behind
it. -/
theorem exists_written_of_mem {α : Type} [Shaped α] {a : α} {text : String}
    (h : text ∈ textsOf a) : ∃ indent b, Json.Blanks b ∧
      text = String.ofList (Json.write indent (toJson a) ++ b) := by
  rcases List.mem_cons.1 h with rfl | h
  · exact ⟨none, [], Json.blanks_nil, by rw [List.append_nil]; rfl⟩
  · rcases List.mem_pair.1 h with rfl | rfl
    · exact ⟨some 0, [], Json.blanks_nil, by rw [List.append_nil]; rfl⟩
    · exact ⟨some 0, ['\n'], Json.blanks_newline, by rw [String.ofList_append]; rfl⟩

theorem decode_of_mem {α : Type} [Shaped α] {a : α} (hsound : (Shaped.shape α).isSound = true)
    (ha : (Shaped.shape α).Settled (Shaped.pack a))
    (hdepth : (Shaped.shape α).depth ≤ Json.maxDepth) {text : String} (h : text ∈ textsOf a) :
    decode α text = .ok a := by
  obtain ⟨indent, b, hb, rfl⟩ := exists_written_of_mem h
  exact decode_write_of_settled hsound ha indent hdepth hb

/-- From its texts a record is read as what is kept of it. -/
structure ComesBack (α : Type) [Shaped α] (read : String → Except Complaint α) (kept : α → α) :
    Prop where
  /-- it is read, -/
  read : ∀ (a : α), ∀ text ∈ textsOf a, read text = .ok (kept a)
  /-- and records that differ in what is kept have no text in common -/
  apart : ∀ (a b : α) (text : String), text ∈ textsOf a → text ∈ textsOf b → kept a = kept b

theorem ComesBack.of_read {α : Type} [Shaped α] {read : String → Except Complaint α}
    {kept : α → α} (h : ∀ (a : α), ∀ text ∈ textsOf a, read text = .ok (kept a)) :
    ComesBack α read kept where
  read := h
  apart := by
    intro a b text ha hb
    exact Except.ok.inj ((h a text ha).symm.trans (h b text hb))

/-- A record none of whose fields is superseded comes back. -/
theorem comesBack {α : Type} [Shaped α] [Recoverable α]
    (hdepth : (Shaped.shape α).depth ≤ Json.maxDepth) : ComesBack α (decode α) id :=
  .of_read fun a _ h => decode_of_mem Recoverable.sound (Recoverable.settled a) hdepth h

namespace RealmConfiguration

theorem sound : (Shaped.shape RealmConfiguration).isSound = true := by decide

theorem comesBack : ComesBack RealmConfiguration ofStored withoutMailEditing := by
  refine .of_read fun c text h => ?_
  -- the text is also one of the configuration without the superseded field
  have hread : decode RealmConfiguration text = .ok c.withoutMailEditing :=
    decode_of_mem sound (settled_iff.2 rfl) (by decide) h
  rw [ofStored, hread]
  exact congrArg _ (normalize_withoutMailEditing c)

end RealmConfiguration

/-! ### Two records in one text -/

/-- What is printed of both configurations of a realm has one member for each. -/
theorem bothDocument_eq (c : RealmConfiguration) (a : AdminConfiguration) :
    Command.bothDocument c a = .object
      [("admin_configuration", (toJson a).sorted), ("configuration", (toJson c).sorted)] := by
  have hlt : "admin_configuration" < "configuration" := by decide
  let members : Dict Json :=
    ⟨[("admin_configuration", (toJson a).sorted), ("configuration", (toJson c).sorted)],
      List.pairwise_pair.2 hlt⟩
  have hmembers :
      Dict.ofList [("configuration", (toJson c).sorted), ("admin_configuration", (toJson a).sorted)] =
        members := Dict.ofList_of_perm (.swap _ _ _)
  rw [Command.bothDocument, Json.sorted]
  exact congrArg (fun d => Json.object (Dict.entries d)) hmembers

theorem parseJson_bothDocument (c : RealmConfiguration) (a : AdminConfiguration) :
    parseJson (Command.Answer.document (Command.bothDocument c a)).output =
      .ok (Command.bothDocument c a) := by
  have hplain : (Json.object [("configuration", toJson c), ("admin_configuration", toJson a)]).Plain :=
    ⟨Shape.plain_toJson _ _ RealmConfiguration.sound,
      Shape.plain_toJson _ _ Recoverable.sound, trivial⟩
  have hdepth : (Json.object [("configuration", toJson c),
      ("admin_configuration", toJson a)]).depth ≤ Json.maxDepth := by
    have hc := Shape.depth_toJson_le _ (Shaped.pack c)
    have ha := Shape.depth_toJson_le _ (Shaped.pack a)
    have hshape : (Shaped.shape RealmConfiguration).depth ≤ 2 := by decide
    have hadmin : (Shaped.shape AdminConfiguration).depth ≤ 3 := by decide
    simp only [Json.depth, Json.membersDepth, Json.maxDepth, toJson]
    omega
  have hparse : Json.parse (Json.write (some 0) (Command.bothDocument c a) ++ ['\n']) =
      .ok (Command.bothDocument c a) :=
    Json.parse_write_sorted (some 0) hplain hdepth Json.blanks_newline
  rw [parseJson, toList_output_document, hparse]

/-- All that is said of the texts of stored records. -/
structure RecordsComeBack : Prop where
  admin : ComesBack AdminConfiguration (decode AdminConfiguration) id
  accreditation : ComesBack Accreditation (decode Accreditation) id
  contextKey : ComesBack ContextKeyConfiguration (decode ContextKeyConfiguration) id
  /-- a configuration loses its superseded field, -/
  configuration : ComesBack RealmConfiguration RealmConfiguration.ofStored
    RealmConfiguration.withoutMailEditing
  /-- so nothing is lost of one that is as it is kept -/
  normalized : ∀ c : RealmConfiguration, c.normalize = c → c.withoutMailEditing = c
  /-- and where both configurations of a realm are printed together, each comes back. -/
  both : ∀ (c : RealmConfiguration) (a : AdminConfiguration),
    ∃ u v, parseJson (Command.Answer.document (Command.bothDocument c a)).output =
        .ok (.object [("admin_configuration", u), ("configuration", v)]) ∧
      ofJson AdminConfiguration u = .ok a ∧
      (ofJson RealmConfiguration v).map RealmConfiguration.normalize = .ok c.withoutMailEditing

/-- Every stored record is read back from every text that is written of it. -/
theorem records_come_back : RecordsComeBack where
  admin := comesBack (by decide)
  accreditation := comesBack (by decide)
  contextKey := comesBack (by decide)
  configuration := RealmConfiguration.comesBack
  normalized c := RealmConfiguration.normalize_eq_self_iff.1
  both := by
    intro c a
    refine ⟨(toJson a).sorted, (toJson c).sorted, ?_, ?_, ?_⟩
    · rw [parseJson_bothDocument, bothDocument_eq]
    · exact ofJson_toJson Recoverable.sound (Recoverable.settled a)
    · rw [← RealmConfiguration.toJson_withoutMailEditing c,
        ofJson_toJson RealmConfiguration.sound (RealmConfiguration.settled_iff.2 rfl)]
      exact congrArg _ (RealmConfiguration.normalize_withoutMailEditing c)

end RealmRegistry
