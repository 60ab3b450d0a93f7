/-!
# Sections

Every project has three pages right below its root, one for each section.
-/

namespace NotionProject

/-- A section of a project. -/
inductive Section where
  | datasets
  | experiments
  | comparisons
deriving DecidableEq

namespace Section

/-- All sections, in order. -/
def all : List Section :=
  [datasets, experiments, comparisons]

/-- The exact title of the page of the section. -/
def title : Section → String
  | datasets => "Datasets"
  | experiments => "Experiments"
  | comparisons => "Comparisons"

end Section

end NotionProject
