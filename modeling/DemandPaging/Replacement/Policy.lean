/-!
# Replacement policies

The rule by which a space chooses the page that leaves memory.  How each rule
ranks pages is in `DemandPaging.Replacement`.
-/

namespace DemandPaging

/-- A page replacement policy. -/
inductive Policy where
  /-- No paging: every page stays in memory and none is tracked. -/
  | noPaging
  /-- Not frequently used: references age page by page, and the page whose
  history is the smallest number leaves. -/
  | nfua
  /-- Least accessed: references age likewise, and the page with the fewest
  remembered references leaves. -/
  | lapa
  /-- First in, first out, with a second chance for referenced pages. -/
  | scfifo
  deriving DecidableEq

namespace Policy

/-- The policy of a space that asks for none in particular. -/
def standard : Policy := scfifo

/-- Does the policy page at all? -/
def isPaging : Policy → Bool
  | noPaging => false
  | _ => true

def name : Policy → String
  | noPaging => "NONE"
  | nfua => "NFUA"
  | lapa => "LAPA"
  | scfifo => "SCFIFO"

end Policy

end DemandPaging
