import SpriteScript.Json.Number
import SpriteScript.Proofs.Json.Printed
import SpriteScript.Proofs.Number.Layout

namespace SpriteScript

/-! Binary numbers in trees. Each of them is printed in the grammar of numbers; but reading
rounds twice, so what is read is another number at times. -/

namespace Json

theorem double_isProper (value : Float) : (double value).IsProper := by
  rw [double]
  split
  · next numeral written => exact Layout.numeral?_isProper _ written
  · trivial

theorem single_isProper (value : Float32) : (single value).IsProper := by
  rw [single]
  split
  · next numeral written => exact Layout.numeral?_isProper _ written
  · trivial

theorem double_of_infinite {value : Float} (infinite : value.isFinite = false) :
    double value = .null := by
  rw [double, Layout.numeral?_of_infinite _ value infinite]

theorem double_of_finite {value : Float} (finite : value.isFinite = true) :
    ∃ numeral, double value = .number numeral := by
  rcases Layout.numeral?_of_finite .doubleData value finite with ⟨numeral, written⟩
  exact ⟨numeral, by rw [double, written]⟩

theorem single_of_infinite {value : Float32} (infinite : value.isFinite = false) :
    single value = .null := by
  rw [single, Layout.numeral?_of_infinite _ value infinite]

theorem asSingle?_of_infinite {value : Float32} (infinite : value.isFinite = false) :
    (single value).asSingle? = none := by
  rw [single_of_infinite infinite]
  rfl

/-! ## Numbers that come back -/

/-- Whether a number is read again from the text that is printed for it alone. Reading
rounds twice, so this does not hold of every number. -/
def ReadsBack (value : Float) : Prop :=
  (Document.ofString (double value).toText).tree.asDouble? = some value

instance (value : Float) : Decidable (ReadsBack value) :=
  inferInstanceAs (Decidable (_ = some value))

def ReadBack (numbers : List Float) : Prop :=
  ∀ number ∈ numbers, number.isFinite → ReadsBack number

theorem readsBack_iff {value : Float} :
    ReadsBack value ↔ (double value).asDouble? = some value := by
  rw [ReadsBack, Document.ofString_toText (double_isProper value)]

def SingleReadsBack (value : Float32) : Prop :=
  (Document.ofString (single value).toText).tree.asSingle? = some value

instance (value : Float32) : Decidable (SingleReadsBack value) :=
  inferInstanceAs (Decidable (_ = some value))

theorem singleReadsBack_iff {value : Float32} :
    SingleReadsBack value ↔ (single value).asSingle? = some value := by
  rw [SingleReadsBack, Document.ofString_toText (single_isProper value)]

end Json

end SpriteScript
