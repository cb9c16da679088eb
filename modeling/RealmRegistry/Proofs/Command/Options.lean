/-
The values of options in a command line.

An option in its long form is followed by its value, behind an equals sign or as the next argument.
However they are written, all values of an option that has no short form are taken, in their order;
none is dropped.

* `named` — the values of an option in some arguments;
* `valuesOf_of_readAll` — what is read after a verb has all these values;
* `values_of_listAuthorizations` — so has the command that lists authorizations.
-/
import RealmRegistry.Command.Line
import RealmRegistry.Proofs.Schema.Document

namespace RealmRegistry.Command

open Schema Access

/-! ### Values in arguments -/

/-- The name of an option in its long form, and the value behind its equals sign if there is one. -/
def longForm? (arg : String) : Option (String × Option String) :=
  match arg.toList with
  | '-' :: '-' :: text =>
    let name := text.takeWhile (· != '=')
    some (String.ofList name, match text.drop name.length with
      | [] => none
      | _ :: value => some (String.ofList value))
  | _ => none

/-- The values of an option in some arguments. -/
def named (o : Switch) : List String → List String
  | [] => []
  | arg :: r =>
    match longForm? arg with
    | some (name, value?) =>
      if name = o.name then (value? <|> r.head?).toList ++ named o r else named o r
    | none => named o r

/-- The values of an option that has no short form. -/
def Given.valuesOf (g : Given) : Switch → List String
  | .service => g.service.toList.map Service.name
  | .api => g.apis.map Api.name
  | _ => []

/-- The value of an option that was read last, or is read next. -/
def Pending.valueFor (p : Pending) (o : Switch) (args : List String) : List String :=
  match p with
  | .waiting o' => if o' = o then args.head?.toList else []
  | .option o' value => if o' = o then [value] else []
  | _ => []

/-- The values of an option that were read so far, and those to come. -/
def Reading.valuesOf (s : Reading) (o : Switch) (args : List String) : List String :=
  s.given.valuesOf o ++ (s.pending.valueFor o args ++ named o args)

theorem name_injective {o o' : Switch} (h : o.name = o'.name) : o = o' := by
  cases o <;> cases o' <;> first | rfl | exact absurd h (by decide)

variable {o : Switch} {l : Level} {s s' : Reading} {g g' : Given} {arg : String}

theorem named_of_not_long (h : longForm? arg = none) (r : List String) :
    named o (arg :: r) = named o r := by
  rw [named, h]

theorem named_of_long {name : String} {value? : Option String}
    (h : longForm? arg = some (name, value?)) (r : List String) :
    named o (arg :: r) =
      if name = o.name then (value? <|> r.head?).toList ++ named o r else named o r := by
  rw [named, h]

/-! ### Looking at what was read -/

theorem service_or_api (ho : o.letter? = none) : o = .service ∨ o = .api := by
  cases o with
  | service => exact .inl rfl
  | api => exact .inr rfl
  | _ => cases ho

theorem name_of_readName {α : Type} [Choice α] {value : String} {a : α}
    (h : readName α value = .ok a) : Choice.name a = value := by
  rw [readName] at h
  split at h
  next hname =>
    cases h
    exact Choice.name_ofName? hname
  · cases h

/-- An option adds its value to its own values. -/
theorem valuesOf_addOption (ho : o.letter? = none) {o' : Switch} {value : String}
    (h : g.addOption o' value = .ok g') :
    g'.valuesOf o = g.valuesOf o ++ if o' = o then [value] else [] := by
  cases o' with
  | settings =>
    rw [Given.addOption] at h
    split at h
    · cases h
    · obtain ⟨path, -, rfl⟩ := map_eq_ok.1 h
      rcases service_or_api ho with rfl | rfl <;> exact (List.append_nil _).symm
  | service =>
    rw [Given.addOption] at h
    split at h
    · cases h
    next hnone =>
      rw [Option.not_isSome_iff_eq_none] at hnone
      obtain ⟨a, ha, rfl⟩ := map_eq_ok.1 h
      rcases service_or_api ho with rfl | rfl
      · -- there was none before
        simp only [Given.valuesOf, hnone]
        exact congrArg (fun name => [name]) (name_of_readName ha)
      · exact (List.append_nil _).symm
  | api =>
    obtain ⟨a, ha, rfl⟩ := map_eq_ok.1 h
    rcases service_or_api ho with rfl | rfl
    · exact (List.append_nil _).symm
    · rw [Given.valuesOf, List.map_append]
      exact congrArg (fun name => g.apis.map Api.name ++ [name]) (name_of_readName ha)
  | help =>
    cases h
    rw [if_neg (by rintro rfl; cases ho), List.append_nil]
  | version =>
    cases h
    rw [if_neg (by rintro rfl; cases ho), List.append_nil]

theorem valuesOf_addOperand {kind : Operand} {value : String}
    (h : g.addOperand kind value = .ok g') : g'.valuesOf o = g.valuesOf o := by
  cases kind with
  | realm =>
    cases h
    cases o <;> rfl
  | path =>
    obtain ⟨p, -, rfl⟩ := map_eq_ok.1 h
    cases o <;> rfl

/-- What was read last adds its value, whatever follows. -/
theorem valuesOf_settle (ho : o.letter? = none) (h : s.settle = .ok g) (args : List String) :
    g.valuesOf o = s.given.valuesOf o ++ s.pending.valueFor o args := by
  obtain ⟨given, pending⟩ := s
  cases pending with
  | nothing =>
    cases h
    exact (List.append_nil _).symm
  | waiting o' => cases h
  | option o' value => exact valuesOf_addOption ho h
  | operand kind value =>
    rw [valuesOf_addOperand h]
    exact (List.append_nil _).symm

/-! ### Reading arguments -/

/-- Reads an option with the value that is attached to it, if there is one. -/
def Reading.take (s : Reading) (o : Switch) : Option String → Except Usage Reading
  | none => s.next (.waiting o)
  | some value => s.attach o value

/-- An option that is read adds its value, which is the next argument if none is attached. -/
theorem valuesOf_take (ho : o.letter? = none) {o' : Switch} {value? : Option String}
    (h : s.take o' value? = .ok s') (args r : List String) :
    s'.valuesOf o r = s.given.valuesOf o ++ s.pending.valueFor o args ++
      ((if o' = o then (value? <|> r.head?).toList else []) ++ named o r) := by
  cases value? with
  | none =>
    obtain ⟨g, hsettle, rfl⟩ := map_eq_ok.1 h
    rw [Reading.valuesOf, valuesOf_settle ho hsettle args]
    rfl
  | some value =>
    obtain ⟨g, hsettle, h⟩ := bind_eq_ok.1 h
    obtain ⟨g', hadd, h⟩ := bind_eq_ok.1 h
    cases h
    rw [Reading.valuesOf, valuesOf_addOption ho hadd, valuesOf_settle ho hsettle args,
      List.append_assoc]
    rfl

theorem answer_ne_ok {u : Usage} : s.answer u ≠ .ok s' := by
  intro h
  rw [Reading.answer] at h
  split at h <;> cases h

theorem of_find {p : Switch → Bool} {o : Switch} (h : l.switches.find? p = some o) :
    o ∈ l.switches ∧ p o = true :=
  ⟨List.mem_of_find?_eq_some h, List.find?_some h⟩

theorem readLong_cases {text : List Char} (harg : arg.toList = '-' :: '-' :: text)
    (h : l.readLong s text = .ok s') :
    ∃ o ∈ l.switches, ∃ value?, longForm? arg = some (o.name, value?) ∧
      s.take o value? = .ok s' := by
  rw [longForm?, harg]
  simp only [Level.readLong] at h
  split at h
  · cases h
  next o hname =>
    obtain ⟨hmem, hname⟩ := of_find hname
    rw [beq_iff_eq] at hname
    split at h
    · exact absurd h answer_ne_ok
    · cases h
    next hdrop => exact ⟨o, hmem, none, by simp [hname, hdrop], h⟩
    next value _ hdrop => exact ⟨o, hmem, some (String.ofList value), by simp [hname, hdrop], h⟩

theorem readShort_cases {c : Char} {text : List Char} (h : l.readShort s (c :: text) = .ok s') :
    ∃ o ∈ l.switches, o.letter? = some c ∧ ∃ value?, s.take o value? = .ok s' := by
  rw [Level.readShort] at h
  split at h
  · cases h
  next o hletter =>
    obtain ⟨hmem, hletter⟩ := of_find hletter
    refine ⟨o, hmem, beq_iff_eq.1 hletter, ?_⟩
    split at h
    · exact absurd h answer_ne_ok
    · exact ⟨none, h⟩
    · exact ⟨some _, h⟩
    · exact ⟨some _, h⟩

theorem readOperand_cases (h : l.readOperand s arg = .ok s') :
    ∃ kind ∈ l.operands, s.next (.operand kind arg) = .ok s' := by
  rw [Level.readOperand] at h
  split at h
  next kind hkind => exact ⟨kind, List.mem_of_getElem? hkind, h⟩
  · cases h

theorem longForm?_eq_none (h : ∀ text, arg.toList ≠ '-' :: '-' :: text) :
    longForm? arg = none := by
  rw [longForm?]
  split
  next text harg => exact absurd harg (h text)
  · rfl

/-- An argument is an option in its long form, an option in its short form, the value that was
waited for, or an operand. -/
theorem readArgument_cases (h : l.readArgument s arg = .ok s') :
    (∃ o ∈ l.switches, ∃ value?, longForm? arg = some (o.name, value?) ∧
      s.take o value? = .ok s') ∨
    longForm? arg = none ∧
      ((∃ o ∈ l.switches, o.letter? ≠ none ∧ ∃ value?, s.take o value? = .ok s') ∨
        (∃ o, s.pending = .waiting o ∧ s' = { s with pending := .option o arg }) ∨
        ∃ kind ∈ l.operands, s.next (.operand kind arg) = .ok s') := by
  rw [Level.readArgument] at h
  split at h
  next text _ harg => exact .inl (readLong_cases harg h)
  next c text hc harg =>
    have hshort : ∀ text, arg.toList ≠ '-' :: '-' :: text := by
      intro text' h'
      cases h'.symm.trans harg
      exact hc rfl
    obtain ⟨o, hmem, hletter, htake⟩ := readShort_cases h
    exact .inr ⟨longForm?_eq_none hshort, .inl ⟨o, hmem, by rw [hletter]; exact nofun, htake⟩⟩
  next o hwaiting hlong _ =>
    cases h
    exact .inr ⟨longForm?_eq_none hlong, .inr (.inl ⟨o, hwaiting, rfl⟩)⟩
  next hlong _ _ =>
    exact .inr ⟨longForm?_eq_none hlong, .inr (.inr (readOperand_cases h))⟩

/-- Where there are no operands, an argument leaves the values of an option what they are, those
that were read and those to come. -/
theorem valuesOf_readArgument (ho : o.letter? = none) (hl : l.operands = [])
    (h : l.readArgument s arg = .ok s') (r : List String) :
    s.valuesOf o (arg :: r) = s'.valuesOf o r := by
  rw [Reading.valuesOf, ← List.append_assoc]
  rcases readArgument_cases h with ⟨o', -, value?, hlong, htake⟩ |
    ⟨hlong, ⟨o', -, hletter, value?, htake⟩ | ⟨o', hwaiting, rfl⟩ | ⟨kind, hkind, -⟩⟩
  · rw [valuesOf_take ho htake (arg :: r) r, named_of_long hlong]
    by_cases hsame : o' = o
    · rw [if_pos hsame, if_pos (congrArg Switch.name hsame)]
    · rw [if_neg hsame, if_neg fun hname => hsame (name_injective hname)]
      rfl
  · have hother : o' ≠ o := by
      rintro rfl
      exact hletter ho
    rw [valuesOf_take ho htake (arg :: r) r, named_of_not_long hlong, if_neg hother]
    rfl
  · rw [Reading.valuesOf, named_of_not_long hlong, hwaiting, List.append_assoc]
    rfl
  · rw [hl] at hkind
    cases hkind

/-- An option that a level does not have has no values among its arguments. -/
theorem named_of_readArgument (ho : o ∉ l.switches) (h : l.readArgument s arg = .ok s')
    (r : List String) : named o (arg :: r) = named o r := by
  rcases readArgument_cases h with ⟨o', hmem, value?, hlong, -⟩ | ⟨hlong, -⟩
  · have hname : o'.name ≠ o.name := by
      intro hname
      cases name_injective hname
      exact ho hmem
    rw [named_of_long hlong, if_neg hname]
  · exact named_of_not_long hlong r

/-! ### Reading levels -/

/-- Behind a double dash there is nothing where there are no operands. -/
theorem readRest_of_no_operands (hl : l.operands = []) {args : List String}
    (h : l.readRest s args = .ok s') : args = [] ∧ s' = s := by
  cases args with
  | nil =>
    cases h
    exact ⟨rfl, rfl⟩
  | cons arg r =>
    rw [Level.readRest] at h
    split at h
    · cases h
    · split at h
      · cases h
      next hoperand =>
        obtain ⟨kind, hkind, -⟩ := readOperand_cases hoperand
        rw [hl] at hkind
        cases hkind

variable {v : Verb} {args rest : List String}

/-- All values of an option are read at a level without verbs and operands. -/
theorem valuesOf_read (ho : o.letter? = none) (hl : l.operands = []) (hverbs : l.hasVerbs = false)
    {out : Option (Verb × List String)} (h : l.read s args = .ok (s', out))
    (hsettle : s'.settle = .ok g) : g.valuesOf o = s.valuesOf o args := by
  -- every argument keeps what was read together with what is to come
  induction args generalizing s with
  | nil =>
    cases h
    rw [valuesOf_settle ho hsettle [], Reading.valuesOf, named, List.append_nil]
  | cons arg r ih =>
    have hverb : l.verb? s arg = none := by
      rw [Level.verb?, hverbs]
      split <;> rfl
    have hhelp : l.asksForHelp s arg = false := by
      rw [Level.asksForHelp, hverbs]
      split <;> rfl
    rw [Level.read, hverb, hhelp] at h
    simp only [Bool.false_eq_true, if_false] at h
    split at h
    next hdash =>
      obtain ⟨s₁, hrest, heq⟩ := map_eq_ok.1 h
      obtain ⟨rfl, rfl⟩ := readRest_of_no_operands hl hrest
      cases heq
      rw [valuesOf_settle ho hsettle [arg], Reading.valuesOf, hdash]
      have hname : "" ≠ o.name := by cases o <;> decide
      rw [named_of_long (show longForm? "--" = some ("", none) from rfl), if_neg hname, named,
        List.append_nil]
    · split at h
      · cases h
      next s₁ hargument => exact (ih h).trans (valuesOf_readArgument ho hl hargument r).symm

theorem name_of_verb (h : Verb.ofName? arg = some v) : v.name = arg := by
  have hname := List.find?_some h
  exact beq_iff_eq.1 hname

@[simp] theorem longForm?_name (v : Verb) : longForm? v.name = none := by
  cases v <;> rfl

/-- An option that there is not before the verb has all its values behind it. -/
theorem named_of_read (ho : o ∉ l.switches) (h : l.read s args = .ok (s', some (v, rest))) :
    named o args = named o rest := by
  induction args generalizing s with
  | nil => cases h
  | cons arg r ih =>
    rw [Level.read] at h
    split at h
    next v' hverb =>
      -- the verb itself is no option in its long form
      cases h
      rw [Level.verb?] at hverb
      split at hverb
      · cases hverb
      · split at hverb
        · rw [← name_of_verb hverb]
          exact named_of_not_long (longForm?_name v) rest
        · cases hverb
    · split at h
      · cases h
      · split at h
        · obtain ⟨_, _, heq⟩ := map_eq_ok.1 h
          cases heq
        · split at h
          · cases h
          next s₁ hargument => exact (named_of_readArgument ho hargument r).trans (ih h)

/-- What is read after a verb without operands has all values of an option. -/
theorem valuesOf_readAll (ho : o.letter? = none) (hl : l.operands = []) (hverbs : l.hasVerbs = false)
    (h : l.readAll args = .ok g) :
    g.valuesOf o = named o args ∧ (g.apis ≠ [] → g.service ≠ none) := by
  obtain ⟨⟨s, out⟩, hread, h⟩ := bind_eq_ok.1 h
  obtain ⟨g', hsettle, h⟩ := bind_eq_ok.1 h
  split at h
  · cases h
  · split at h
    · cases h
    next hservice =>
      cases h
      refine ⟨?_, fun hapis hnone => ?_⟩
      · rw [valuesOf_read ho hl hverbs hread hsettle]
        rcases service_or_api ho with rfl | rfl <;> rfl
      · rw [hnone] at hservice
        simp [hapis] at hservice

/-- A command line that lists authorizations has exactly these values of its options, and a service
if it has an API. -/
theorem values_of_listAuthorizations {service : Option Service} {apis : List Api} {path : String}
    (h : Request.ofArguments args = .ok ⟨.listAuthorizations service apis, path⟩) :
    service.toList.map Service.name = named .service args ∧
      apis.map Api.name = named .api args ∧ (apis ≠ [] → service ≠ none) := by
  obtain ⟨⟨s, found⟩, hread, h⟩ := bind_eq_ok.1 h
  cases found with
  | none =>
    obtain ⟨_, _, h⟩ := bind_eq_ok.1 h
    cases h
  | some found =>
    obtain ⟨v, rest⟩ := found
    obtain ⟨g, hall, h⟩ := bind_eq_ok.1 h
    obtain ⟨before, -, h⟩ := bind_eq_ok.1 h
    have hcommand : ofGiven v g = .listAuthorizations service apis :=
      congrArg Request.command (Except.ok.inj h)
    cases v with
    | listAuthorizations =>
      cases hcommand
      have hservice : Switch.service.letter? = none := rfl
      have hapi : Switch.api.letter? = none := rfl
      obtain ⟨hservice, hneeds⟩ := valuesOf_readAll hservice rfl rfl hall
      obtain ⟨hapis, -⟩ := valuesOf_readAll hapi rfl rfl hall
      refine ⟨hservice.trans (named_of_read ?_ hread).symm,
        hapis.trans (named_of_read ?_ hread).symm, hneeds⟩
      · decide
      · decide
    | _ => cases hcommand

end RealmRegistry.Command
