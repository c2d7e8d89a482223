/-
# A choice has the same word everywhere

The words of a choice stand in two tables: that of documents, in which every value has its name, and
a vocabulary for the word on its own, as on the command line.

| choice | in a document | on its own |
| --- | --- | --- |
| buckets | `BucketFilter.words` | `BucketFilter.vocabulary` |
| order of the schedule | `TimeOrder.scheduleWords` | `TimeOrder.scheduleVocabulary` |
| order of the open defences | `TimeOrder.startWords` | `TimeOrder.startVocabulary` |
| starting times | `StartWindow.words` | `StartWindow.vocabulary` |
| states of the seat | `SeatFilter.words` | `SeatFilter.vocabulary` |

In a document every value is found under its name (`lookup_name`).  The vocabulary has the same
words, so a word on its own is found iff it is the name of the value (`find_eq_ok_iff`); all other
words are refused, and the error quotes them (`Vocabulary.find_eq_error_iff`).
-/

import CourtDocket.Control.Choice

namespace CourtDocket

variable {α : Type} {word : String} {a : α}

/-- What is found under a word stands in the table with it. -/
theorem mem_of_lookup {words : List (String × α)} (h : words.lookup word = some a) :
    (word, a) ∈ words := by
  obtain ⟨l₁, l₂, rfl, -⟩ := List.lookup_eq_some_iff.1 h
  exact List.mem_append_right l₁ List.mem_cons_self

/-- A word of a document is the name of what it stands for. -/
theorem eq_name_of_lookup {name : α → String} {values : List α}
    (h : (namedWords name values).lookup word = some a) : word = name a := by
  obtain ⟨b, -, hb⟩ := List.mem_map.1 (mem_of_lookup h)
  cases hb
  rfl

namespace Vocabulary

variable {v : Vocabulary α} {name : α → String} {values : List α}

/-- A vocabulary finds what its table has. -/
theorem find_eq_ok_iff_lookup : v.find word = .ok a ↔ v.words.lookup word = some a := by
  rw [find]
  cases v.words.lookup word with
  | none => exact iff_of_false nofun nofun
  | some b =>
    constructor
    · exact fun h => congrArg some (Except.ok.inj h)
    · exact fun h => congrArg _ (Option.some.inj h)

/-- A vocabulary with the words of documents finds a value under its name, and under no other
word. -/
theorem find_eq_ok_iff (hwords : v.words = namedWords name values)
    (hname : ∀ a, (namedWords name values).lookup (name a) = some a) :
    v.find word = .ok a ↔ word = name a := by
  rw [find_eq_ok_iff_lookup, hwords]
  exact ⟨eq_name_of_lookup, fun h => h ▸ hname a⟩

/-- A word is refused iff it is the name of no value, and the error quotes the word. -/
theorem find_eq_error_iff {e : UnknownWord} (hwords : v.words = namedWords name values)
    (hname : ∀ a, (namedWords name values).lookup (name a) = some a) :
    v.find word = .error e ↔ (∀ a, word ≠ name a) ∧ e = ⟨v.subject, word⟩ := by
  have hfind : ∀ a, v.find word = .ok a ↔ word = name a := fun _ => find_eq_ok_iff hwords hname
  simp only [ne_eq, ← hfind]
  rw [find]
  cases v.words.lookup word with
  | none => simp [throw, throwThe, MonadExceptOf.throw, eq_comm]
  | some b => simp [pure, Except.pure]

end Vocabulary

namespace BucketFilter

/-- Every choice of buckets is found under its name. -/
theorem lookup_name (f : BucketFilter) : words.lookup f.name = some f := by
  cases f <;> decide

/-- A word on its own stands for the buckets that it stands for in a document. -/
theorem find_eq_ok_iff {f : BucketFilter} : vocabulary.find word = .ok f ↔ word = f.name :=
  Vocabulary.find_eq_ok_iff rfl lookup_name

end BucketFilter

namespace TimeOrder

variable {o : TimeOrder}

/-- Every direction of the schedule is found under its name. -/
theorem lookup_scheduleName (o : TimeOrder) : scheduleWords.lookup o.scheduleName = some o := by
  cases o <;> decide

/-- A word on its own stands for the direction that it stands for in a document. -/
theorem find_schedule_eq_ok_iff : scheduleVocabulary.find word = .ok o ↔ word = o.scheduleName :=
  Vocabulary.find_eq_ok_iff rfl lookup_scheduleName

/-- Every direction of the open defences is found under its name. -/
theorem lookup_startName (o : TimeOrder) : startWords.lookup o.startName = some o := by
  cases o <;> decide

/-- So it is with the directions of the open defences. -/
theorem find_start_eq_ok_iff : startVocabulary.find word = .ok o ↔ word = o.startName :=
  Vocabulary.find_eq_ok_iff rfl lookup_startName

end TimeOrder

namespace StartWindow

/-- Every choice of starting times is found under its name. -/
theorem lookup_name (w : StartWindow) : words.lookup w.name = some w := by
  cases w <;> decide

/-- A word on its own stands for the starting times that it stands for in a document. -/
theorem find_eq_ok_iff {w : StartWindow} : vocabulary.find word = .ok w ↔ word = w.name :=
  Vocabulary.find_eq_ok_iff rfl lookup_name

end StartWindow

namespace SeatFilter

/-- Every choice of states is found under its name. -/
theorem lookup_name (f : SeatFilter) : words.lookup f.name = some f := by
  cases f with
  | all => decide
  | only status => cases status <;> decide

/-- A word on its own stands for the states that it stands for in a document. -/
theorem find_eq_ok_iff {f : SeatFilter} : vocabulary.find word = .ok f ↔ word = f.name :=
  Vocabulary.find_eq_ok_iff rfl lookup_name

end SeatFilter
end CourtDocket
