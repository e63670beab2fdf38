import BraceTemplate.Render.ScopeFamily
import BraceTemplate.Render.Session
import BraceTemplate.Terminal.Escape
import BraceTemplate.Proofs.Grammar
import BraceTemplate.Proofs.Simulation
import BraceTemplate.Proofs.Refusals
import BraceTemplate.Proofs.Footprint
import BraceTemplate.Proofs.Copies
import BraceTemplate.Proofs.Seams
import BraceTemplate.Proofs.Tiling
import BraceTemplate.Proofs.FirstFault
import BraceTemplate.Proofs.Moving
import BraceTemplate.Proofs.Joining
import BraceTemplate.Proofs.MergedScopes
import BraceTemplate.Proofs.DocumentOrder
import BraceTemplate.Proofs.Openings
import BraceTemplate.Proofs.Blame
import BraceTemplate.Proofs.RequiredNames
import BraceTemplate.Proofs.Erasing
import BraceTemplate.Proofs.Places
import BraceTemplate.Proofs.Excerpts
import BraceTemplate.Proofs.Carets
import BraceTemplate.Proofs.Tidying
import BraceTemplate.Proofs.FreePaths
import BraceTemplate.Proofs.Resolving
import BraceTemplate.Proofs.Joins
import BraceTemplate.Proofs.Layers
import BraceTemplate.Proofs.ScopeFamilies
import BraceTemplate.Proofs.LineTables
import BraceTemplate.Proofs.Locations
import BraceTemplate.Proofs.Sessions
import BraceTemplate.Proofs.Traversal
import BraceTemplate.Proofs.Controls
import BraceTemplate.Proofs.Colors
import BraceTemplate.Proofs.Leftovers
import BraceTemplate.Proofs.Descriptions
