import RevenueRescue.Foundation.JsonCharacters
import RevenueRescue.Foundation.TextSearch

namespace RevenueRescue.Json

/- How often a character occurs in a JSON text, together with the `u` of the
escapes, which may stand for it. No text that is read as a value has fewer of
them than the text that `json.dumps` writes for the value. -/

variable {d : Decoder} {e : Encoder} {m : Char} {text rest u : Text}

end RevenueRescue.Json
