import Itinerary.Proofs.Stored.Query
import Itinerary.Proofs.Text.Base64
import Itinerary.Token

/-!
# Tokens that are read back

The token of a page is its stored context under two codes. Both are undone without loss, and what
stands in a token is neither a blank nor anything that has to be escaped in an address.
-/

namespace Itinerary.PageContext

open Json Calendar

/-- The bytes in a token hold the context. -/
theorem ofBytes?_encode {c : PageContext} (h : c.query.CarriesOver) :
    ofBytes? (Text.Utf8.encode c.toJson.write) = some c := by
  have hread : Value.ofSource? (sourceOf c.toJson.writeChars) = some c.toJson :=
    Value.ofSource?_writeChars c.written_toJson
  rw [ofBytes?, Reader.parseSource, Text.Utf8.scan_encode, Value.write, String.toList_ofList]
  rw [sourceOf] at hread
  rw [hread]
  exact reader_toJson h 123

theorem ofToken_of_trim {token : String} {c : PageContext} (htrim : Text.trim token = c.token)
    (h : c.query.CarriesOver) : ofToken token = .ok c := by
  rw [ofToken, htrim, PageContext.token, Text.Base64.decode_encode]
  simp only
  rw [ofBytes?_encode h]

/-- **A token is read back** as the context it was made of, if the coordinates are. -/
theorem ofToken_token {c : PageContext} (h : c.query.CarriesOver) : ofToken c.token = .ok c :=
  ofToken_of_trim (Text.Base64.trim_encode _) h

end Itinerary.PageContext
