import Minijail.Libc.Strtol
import Minijail.Libc.Strtod
import Minijail.Libc.StrtodText
import Minijail.Libc.Strtok
import Minijail.Libc.Printf
import Minijail.Libc.Getopt
import Minijail.Jail
import Minijail.Minijail0.Helpers
import Minijail.Minijail0.ParseArgs
import Minijail.Minijail0.Main
import Minijail.Proofs.Helpers
import Minijail.Proofs.Loop
import Minijail.Proofs.Tail
import Minijail.Proofs.IdMap
import Minijail.Proofs.Accept
import Minijail.Proofs.Order
import Minijail.Proofs.Numerals
import Minijail.Proofs.Fields
import Minijail.Proofs.Exit
import Minijail.Proofs.Launch
import Minijail.Proofs.Handover
import Minijail.Proofs.Reads
