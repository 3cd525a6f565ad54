/-!
Texts are lists of code points. Offsets and lengths of a text count code points; its encoded
size is a separate measure.
-/

namespace LiteralPack

abbrev Text := List Char

end LiteralPack
