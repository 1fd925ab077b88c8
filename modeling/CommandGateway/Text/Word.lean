import CommandGateway.Text.Ranges
import CommandGateway.Text.WordTable

/- Letters and numbers of all scripts. -/
namespace CommandGateway.Text

def isAlphanumeric (c : Char) : Bool :=
  if c.toNat < 0x80 then c.isAlphanum else inRanges lettersAndNumbers c

end CommandGateway.Text
