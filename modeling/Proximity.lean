import Proximity.EnvFile
import Proximity.Proofs.Confirmation
import Proximity.Proofs.Activation
import Proximity.Proofs.Notification
import Proximity.Proofs.Answers
import Proximity.Scenario
import Proximity.Tracker
import Proximity.Proofs.Recheck
import Proximity.Proofs.EagerFar
import Proximity.Proofs.Tending
import Proximity.Proofs.Readying
import Proximity.Proofs.Vigil
import Proximity.Proofs.Slumber
import Proximity.Proofs.Sampling
import Proximity.Proofs.Balance
import Proximity.Proofs.SafeMode
import Proximity.Proofs.Course
import Proximity.Proofs.Punctual
import Proximity.Proofs.Stirred
import Proximity.Proofs.Silence
import Proximity.Proofs.Residue
import Proximity.Proofs.Stranding
import Proximity.Proofs.Erasure
import Proximity.Proofs.Overtaking
import Proximity.Proofs.Isolation
import Proximity.Proofs.Handles
import Proximity.Proofs.Concealment
import Proximity.Proofs.Intactness
import Proximity.Proofs.Loading
import Proximity.Proofs.Agreement
import Proximity.Proofs.Ranges
