import SpotCheck.Text.Alphabetic
import SpotCheck.Text.Numeric

/-!
# Letters and numbers
-/

namespace SpotCheck.Text

def isLetter (c : Char) : Bool := alphabetic.contains c.toNat

def isLetterOrNumber (c : Char) : Bool := isLetter c || numeric.contains c.toNat

end SpotCheck.Text
