import TextAdventure.Main
import TextAdventure.Proofs.Acceptance
import TextAdventure.Proofs.Asking
import TextAdventure.Proofs.Carrying
import TextAdventure.Proofs.Commutation
import TextAdventure.Proofs.Conservation
import TextAdventure.Proofs.Declarations
import TextAdventure.Proofs.Directions
import TextAdventure.Proofs.Expansion
import TextAdventure.Proofs.Frame
import TextAdventure.Proofs.FullCommands
import TextAdventure.Proofs.Inert
import TextAdventure.Proofs.Insertion
import TextAdventure.Proofs.Lines
import TextAdventure.Proofs.Loading
import TextAdventure.Proofs.Loop
import TextAdventure.Proofs.MissingRoom
import TextAdventure.Proofs.Names
import TextAdventure.Proofs.Order
import TextAdventure.Proofs.Output
import TextAdventure.Proofs.Presentation
import TextAdventure.Proofs.Program
import TextAdventure.Proofs.Rewriting
import TextAdventure.Proofs.RoomIds
import TextAdventure.Proofs.RoundTrip
import TextAdventure.Proofs.Settling
import TextAdventure.Proofs.Success
import TextAdventure.Proofs.Surroundings
import TextAdventure.Proofs.Sweep
import TextAdventure.Proofs.Ways
import TextAdventure.Proofs.WholePhrases
import TextAdventure.Proofs.Toml.Lines
