import DocStore.Bench
import DocStore.Binding
import DocStore.Proofs.Addressing
import DocStore.Proofs.Bytes
import DocStore.Proofs.Client.Codes
import DocStore.Proofs.Client.Failures
import DocStore.Proofs.Client.Lifecycle
import DocStore.Proofs.Commuting
import DocStore.Proofs.Inserting
import DocStore.Proofs.Json.Printed
import DocStore.Proofs.Paging
import DocStore.Proofs.Parameters
import DocStore.Proofs.Projecting
import DocStore.Proofs.Query.Building
import DocStore.Proofs.Query.Grammar
import DocStore.Proofs.Reading
import DocStore.Proofs.Refinement.Runs
import DocStore.Proofs.Retrying
import DocStore.Proofs.Service.Batches
import DocStore.Proofs.Settings
import DocStore.Proofs.Tokens.Failures
import DocStore.Proofs.Traffic
