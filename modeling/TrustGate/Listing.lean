import TrustGate.Profile.Basic

/-!
# The table of saved networks

One line of titles and one line for every network. Cells are filled up with
spaces to the width of their column, counted in characters, and are never cut.
Names stand in their cells as they are, whatever characters they hold.
-/

namespace TrustGate.Listing

def padded (width : Nat) (text : String) : String :=
  text ++ String.ofList (List.replicate (width - text.length) ' ')

/-- The widths of the columns; the last one is not filled up. -/
def columnWidths : List Nat :=
  [5, 24, 11, 20, 5, 9, 0]

def titles : List String :=
  ["ID", "SSID", "EAP", "CA", "TOFU", "APPROVED", "AUTO"]

def mark (value : Bool) : String :=
  if value then "yes" else "-"

/-- The cells about the trust in a network: method, authority, pinning and approval. -/
def trustCells : Option Enterprise → List String
  | none => ["open", "-", "-", "-"]
  | some enterprise =>
      [enterprise.eapMethod.displayName,
        (enterprise.caCertificate.map PinnedCertificate.commonName).getD "-",
        mark enterprise.tofuEnabled, mark enterprise.approvedWithoutCa]

def cells (profile : NetworkProfile) : List String :=
  [toString profile.networkId.toNat, profile.ssid] ++ trustCells profile.enterprise ++
    [mark profile.autoConnect]

def line (cells : List String) : String :=
  " ".intercalate (List.zipWith padded columnWidths cells)

def lines (profiles : List NetworkProfile) : List String :=
  line titles :: profiles.map (line ∘ cells)

/-- The table, whose lines are ended by line feeds. -/
def table (profiles : List NetworkProfile) : String :=
  String.join ((lines profiles).map (· ++ "\n"))

def text (profiles : List NetworkProfile) : String :=
  if profiles.isEmpty then "No saved networks.\n" else table profiles

end TrustGate.Listing
