/-!
Hexadecimal notation of code points, as the escapes of quoted texts and of JSON strings use it.
-/

namespace Minim.Text

/-- The hexadecimal digits of a number in lower case, with zeros in front up to the given width. -/
def hex (width n : Nat) : List Char :=
  let digits := Nat.toDigits 16 n
  List.replicate (width - digits.length) '0' ++ digits

end Minim.Text
