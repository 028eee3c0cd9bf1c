import QueryDesk.Schema.Category
import QueryDesk.Proofs.Text.Letter

/-! # Which fragment of a type name decides

The fragments stand in three blocks, those of calendar values before those of quantities and these before those of
labels, so a type name has the category of the first block of which it holds a word in its lower case
(`ofTypeName_eq`). A timestamp is therefore always a date, whatever stands around the word; a label such as
`varchar` is one only where no word of the other two blocks stands around it (`category_of_timestamp_of_varchar`).
-/

set_option autoImplicit false

namespace QueryDesk.Category

/-! ## The three blocks -/

/-- The fragments that stand for calendar values. -/
def calendarWords : List String := ["timestamp", "date", "time"]

/-- The fragments that stand for quantities. -/
def numberWords : List String := ["int", "numeric", "decimal", "float", "double", "real", "money"]

/-- The fragments that stand for labels. -/
def labelWords : List String := ["char", "text", "varchar", "bool", "uuid"]

/-- Words with the category that they stand for. -/
def block (words : List String) (c : Category) : List (String × Category) := words.map fun word => (word, c)

theorem fragments_eq :
    fragments = block calendarWords .date ++ (block numberWords .numeric ++ block labelWords .categorical) := rfl

/-- **One of the words stands in a text.** -/
def Holds (words : List String) (text : List Char) : Prop := ∃ word ∈ words, word.toList <:+: text

theorem any_contains_iff {words : List String} {text : List Char} :
    (words.any fun word => Text.contains word.toList text) = true ↔ Holds words text := by
  simp only [List.any_eq_true, Text.contains_iff, Holds]

instance (words : List String) (text : List Char) : Decidable (Holds words text) :=
  decidable_of_iff _ any_contains_iff

/-- What the first fragment of a list that stands in a text stands for. -/
def first? (fragments : List (String × Category)) (text : List Char) : Option Category :=
  (fragments.find? fun f => Text.contains f.1.toList text).map Prod.snd

theorem first?_append (front back : List (String × Category)) (text : List Char) :
    first? (front ++ back) text = (first? front text).or (first? back text) := by
  rw [first?, List.find?_append, Option.map_or, first?, first?]

/-- Within a block it does not matter which word comes first. -/
theorem first?_block (words : List String) (c : Category) (text : List Char) :
    first? (block words c) text = if Holds words text then some c else none := by
  rw [first?, block, List.find?_map, Option.map_map]
  split
  next h =>
      obtain ⟨word, hword, hin⟩ := h
      have hsome : (words.find? fun word => Text.contains word.toList text).isSome :=
        List.find?_isSome.mpr ⟨word, hword, Text.contains_iff.mpr hin⟩
      obtain ⟨found, hfound⟩ := Option.isSome_iff_exists.mp hsome
      exact Option.map_eq_some_iff.mpr ⟨found, hfound, rfl⟩
  next h =>
      refine Option.map_eq_none_iff.mpr (List.find?_eq_none.mpr fun word hword hin => h ?_)
      exact ⟨word, hword, Text.contains_iff.mp hin⟩

theorem ofTypeName_eq_getD (name : String) :
    ofTypeName name = (first? fragments (Text.lowered name)).getD .unknown := by
  rw [ofTypeName, first?]
  cases fragments.find? fun f => Text.contains f.1.toList (Text.lowered name) <;> rfl

/-- Whether words are made of ASCII characters. -/
def areAscii (words : List String) : Bool := words.all fun word => word.toList.all fun c => c.toNat < 128

/-- An ASCII word of a list stands in every lower case of a text or in none. -/
theorem holds_lowered_iff {words : List String} {name : String} {lower : List Char}
    (hlower : Text.LowerCase name.toList lower) (hwords : areAscii words = true) :
    Holds words (Text.lowered name) ↔ Holds words lower := by
  simp only [areAscii, List.all_eq_true, decide_eq_true_eq] at hwords
  exact exists_congr fun word => and_congr_right fun hword => Text.infix_lowered_iff hlower (hwords word hword)

/-- **The first block of which a word stands in the lower case decides.** -/
theorem ofTypeName_eq {name : String} {lower : List Char} (hlower : Text.LowerCase name.toList lower) :
    ofTypeName name =
      if Holds calendarWords lower then .date
      else if Holds numberWords lower then .numeric
      else if Holds labelWords lower then .categorical
      else .unknown := by
  have hcalendar : Holds calendarWords (Text.lowered name) ↔ Holds calendarWords lower :=
    holds_lowered_iff hlower rfl
  have hnumber : Holds numberWords (Text.lowered name) ↔ Holds numberWords lower :=
    holds_lowered_iff hlower rfl
  have hlabel : Holds labelWords (Text.lowered name) ↔ Holds labelWords lower :=
    holds_lowered_iff hlower rfl
  rw [ofTypeName_eq_getD, fragments_eq, first?_append, first?_append, first?_block, first?_block, first?_block]
  simp only [hcalendar, hnumber, hlabel]
  split
  · rfl
  · split
    · rfl
    · split <;> rfl

/-! ## Timestamps and labels -/

/-- **A timestamp is always a date; a `varchar` is a label unless a calendar word or a number word stands around it.**
Where both a calendar word and a number word do, the calendar word decides. -/
theorem category_of_timestamp_of_varchar {name : String} {lower : List Char}
    (hlower : Text.LowerCase name.toList lower) :
    ("timestamp".toList <:+: lower → ofTypeName name = .date) ∧
    ("varchar".toList <:+: lower →
      (ofTypeName name = .date ↔ Holds calendarWords lower) ∧
      (ofTypeName name = .numeric ↔ ¬Holds calendarWords lower ∧ Holds numberWords lower) ∧
      (ofTypeName name = .categorical ↔ ¬Holds calendarWords lower ∧ ¬Holds numberWords lower)) := by
  rw [ofTypeName_eq hlower]
  constructor
  · intro hin
    have hcalendar : Holds calendarWords lower := ⟨"timestamp", by decide, hin⟩
    rw [if_pos hcalendar]
  · intro hin
    have hlabel : Holds labelWords lower := ⟨"varchar", by decide, hin⟩
    by_cases hcalendar : Holds calendarWords lower
    · simp [hcalendar]
    · by_cases hnumber : Holds numberWords lower
      · simp [hcalendar, hnumber]
      · simp [hcalendar, hnumber, hlabel]

/-- A timestamp with an `int` and a `varchar` around it, a label with nothing around it that tells otherwise, and one
with a calendar word beside a number word. -/
theorem category_of_printed_timestamp :
    "timestamp".toList <:+: Text.lowered "Printed TIMESTAMP, as VarChar(30)" ∧
      ofTypeName "Printed TIMESTAMP, as VarChar(30)" = .date ∧
    "varchar".toList <:+: Text.lowered "National VARCHAR(20)" ∧
      ofTypeName "National VARCHAR(20)" = .categorical ∧
    "varchar".toList <:+: Text.lowered "varchar(9) of a printed date" ∧
      ofTypeName "varchar(9) of a printed date" = .date := by
  have htimestamp : "timestamp".toList <:+: Text.lowered "Printed TIMESTAMP, as VarChar(30)" :=
    Text.contains_iff.mp (by decide)
  have hlabel : "varchar".toList <:+: Text.lowered "National VARCHAR(20)" := Text.contains_iff.mp (by decide)
  have hdate : "varchar".toList <:+: Text.lowered "varchar(9) of a printed date" := Text.contains_iff.mp (by decide)
  exact ⟨htimestamp, (category_of_timestamp_of_varchar (Text.lowerCase_lowered _)).1 htimestamp,
    hlabel, ((category_of_timestamp_of_varchar (Text.lowerCase_lowered _)).2 hlabel).2.2.mpr (by decide),
    hdate, ((category_of_timestamp_of_varchar (Text.lowerCase_lowered _)).2 hdate).1.mpr (by decide)⟩

/-- **A type of fingerprints kept as `varchar` counts as a quantity**: there is an `int` in the word for them, though
the type is not a timestamp. -/
theorem varchar_taken_for_number :
    Text.LowerCase "fingerprint_varchar(64)".toList "fingerprint_varchar(64)".toList ∧
      "varchar".toList <:+: "fingerprint_varchar(64)".toList ∧
      ¬"timestamp".toList <:+: "fingerprint_varchar(64)".toList ∧
      ofTypeName "fingerprint_varchar(64)" = .numeric ∧
      (ofTypeName "fingerprint_varchar(64)").allows .sum = true := by
  have hlowered : Text.lowered "fingerprint_varchar(64)" = "fingerprint_varchar(64)".toList := by decide
  have hlower := Text.lowerCase_lowered "fingerprint_varchar(64)"
  rw [hlowered] at hlower
  refine ⟨hlower, ?_, ?_, by decide, by decide⟩
  · exact Text.contains_iff.mp (by decide)
  · exact fun hin => absurd (Text.contains_iff.mpr hin) (by decide)

end QueryDesk.Category
