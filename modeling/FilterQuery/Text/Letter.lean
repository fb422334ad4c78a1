import FilterQuery.Text.AlphabeticTable
import FilterQuery.Text.NumberTable

/-! Letters and numbers, in the sense of Unicode. -/
namespace FilterQuery.Text

def isLetter (c : Char) : Bool := alphabetic.covers c.toNat

def isNumber (c : Char) : Bool := numbers.covers c.toNat

end FilterQuery.Text
