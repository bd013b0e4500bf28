
namespace BrokerBootstrap.Text

def commaSeparated (names : List String) : String := String.intercalate ", " names

/-- The names in order, or the word "none" where that leaves nothing to read. -/
def listing (names : List String) : String :=
  if commaSeparated names = "" then "none" else commaSeparated names

end BrokerBootstrap.Text
