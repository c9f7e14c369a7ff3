import WorkflowCompiler.Script.Template

/-!
The templates of all pieces of a script that depend on a specification.
-/
namespace WorkflowCompiler.Script.Templates

/-- The header of a deployable script: imports, defaults and the opening of the workflow. -/
def deployHeader : Template where
  name := "deploy_header"
  parts := [
    .holes [
      .text "\n",
      .text "import airflow\n",
      .text "from airflow.operators.python_operator import PythonOperator, BranchPythonOperator\n",
      .text "from airflow.models import Variable\n",
      .text "from airflow.operators import StatusPublisherOperator\n",
      .text "from airflow.operators import ComputeInstanceOperator\n",
      .text "\n",
      .text "default_args = \x7b\n",
      .text "    'owner': ", .quoted "owner", .text ",\n",
      .text "    'depends_on_past': False,\n",
      .text "    'email': [''],\n",
      .text "    'email_on_failure': False,\n",
      .text "    'email_on_retry': False,\n",
      .text "    'retries': ", .raw "retries", .text ",\n",
      .text "    'retry_delay': datetime.timedelta(minutes=", .raw "retry_delay_minutes",
      .text "),\n",
      .text "    'start_date': datetime.datetime(", .raw "start_date", .text "),\n",
      .text "    'provide_context': True\n",
      .text "\x7d\n",
      .text "\n",
      .text "# Globals\n",
      .text "#\n",
      .text "_dag_name = ", .quoted "dag_name", .text "\n",
      .text "_dag_type = ", .quoted "dag_type", .text "\n",
      .text "_dag_generator_version = ", .quoted "generator_version", .text "\n",
      .text "\n",
      .text "\n",
      .text "with airflow.DAG(\n",
      .text "    _dag_name,\n",
      .text "    default_args=default_args,\n",
      .text "    concurrency=", .raw "task_concurrency", .text ",\n",
      .text "    max_active_runs=", .raw "max_active_runs", .text ",\n",
      .text "    schedule_interval=", .literal "schedule", .text ",\n",
      .text "    catchup=", .literal "catchup", .text ",\n",
      .text "    description=", .quoted "description", .text ") as dag:\n",
      .text "\n",
      .text "    dag.doc_md = ", .quoted "doc_md", .text "\n",
      .text "\n"]]

/-- The procedure of a query in a local script. -/
def queryLocal : Template where
  name := "query_local"
  parts := [
    .holes [
      .text "def ", .raw "task_id", .text "():\n",
      .text "\n",
      .text "    logging.info(\"\\n\\nExecuting task with id : \x7b\x7d\\n\".format(",
      .quoted "task_id", .text "))\n",
      .text "\n",
      .text "    execute_gbq(sql_id=", .quoted "task_id", .text ",\n",
      .text "                env=", .quoted "environment", .text ",\n",
      .text "                dag_name=", .quoted "dag_name", .text ",\n",
      .text "                gcp_project_id=", .quoted "gcp_project_id", .text ",\n",
      .text "                bq_dataset=", .quoted "bq_dataset", .text ",\n",
      .text "                table_name=", .quoted "table_name", .text ",\n",
      .text "                write_disposition=", .quoted "write_disposition", .text ",\n",
      .text "                sql_query_template=", .quoted "sql_query_template", .text ",\n",
      .text "                run_locally=True,\n",
      .text "                local_sql_query=", .quoted "sql", .text ")\n",
      .text "\n"]]

/-- The node of a query in a deployable script. -/
def queryDeployable : Template where
  name := "query_deploy"
  parts := [
    .holes [
      .text "    ", .raw "task_id", .text " = PythonOperator(\n",
      .text "        task_id=", .quoted "task_id", .text ",\n",
      .text "        dag=dag,\n",
      .text "        python_callable=execute_gbq,\n",
      .text "        op_kwargs=\x7b\"sql_id\": ", .quoted "task_id", .text ",\n",
      .text "                   \"env\": ", .quoted "environment", .text ",\n",
      .text "                   \"dag_name\": _dag_name,\n",
      .text "                   \"gcp_project_id\": ", .quoted "gcp_project_id", .text ",\n",
      .text "                   \"bq_dataset\": ", .quoted "bq_dataset", .text ",\n",
      .text "                   \"table_name\": ", .quoted "table_name", .text ",\n",
      .text "                   \"write_disposition\": ", .quoted "write_disposition", .text ",\n",
      .text "                   \"sql_query_template\": ", .quoted "sql_query_template",
      .text "\x7d\n",
      .text "    )\n",
      .text "    ", .raw "task_id", .text ".doc_md = ", .quoted "doc_md", .text "\n",
      .text "\n"]]

def copyLocal : Template where
  name := "copy_local"
  parts := [
    .holes [
      .text "def ", .raw "task_id", .text "():\n",
      .text "\n",
      .text "    logging.info(\"\\n\\nExecuting task with id : \x7b\x7d\\n\".format(",
      .quoted "task_id", .text "))\n",
      .text "\n",
      .text "    execute_bq_copy_table(source_gcp_project_id=", .quoted "source_gcp_project_id",
      .text ",\n",
      .text "                          source_bq_dataset=", .quoted "source_bq_dataset",
      .text ",\n",
      .text "                          source_bq_table=", .quoted "source_bq_table", .text ",\n",
      .text "                          destination_gcp_project_id=",
      .quoted "destination_gcp_project_id", .text ",\n",
      .text "                          destination_bq_dataset=", .quoted "destination_bq_dataset",
      .text ",\n",
      .text "                          destination_bq_table=", .quoted "destination_bq_table",
      .text ",\n",
      .text "                          destination_bq_table_date_suffix=", .literal "date_suffix",
      .text ",\n",
      .text "                          destination_bq_table_date_suffix_format=",
      .quoted "date_suffix_format", .text ",\n",
      .text "                          run_locally=True)\n",
      .text "\n"]]

def copyDeployable : Template where
  name := "copy_deploy"
  parts := [
    .holes [
      .text "    ", .raw "task_id", .text " = PythonOperator(\n",
      .text "        task_id=", .quoted "task_id", .text ",\n",
      .text "        dag=dag,\n",
      .text "        python_callable=execute_bq_copy_table,\n",
      .text "        op_kwargs=\x7b\"source_gcp_project_id\": ", .quoted "source_gcp_project_id",
      .text ",\n",
      .text "                   \"source_bq_dataset\": ", .quoted "source_bq_dataset", .text ",\n",
      .text "                   \"source_bq_table\": ", .quoted "source_bq_table", .text ",\n",
      .text "                   \"destination_gcp_project_id\": ",
      .quoted "destination_gcp_project_id", .text ",\n",
      .text "                   \"destination_bq_dataset\": ", .quoted "destination_bq_dataset",
      .text ",\n",
      .text "                   \"destination_bq_table\": ", .quoted "destination_bq_table",
      .text ",\n",
      .text "                   \"destination_bq_table_date_suffix\": ", .literal "date_suffix",
      .text ",\n",
      .text "                   \"destination_bq_table_date_suffix_format\": ",
      .quoted "date_suffix_format", .text "\x7d\n",
      .text "    )\n"],
    .whenSet "doc_md" [
      .text "    ", .raw "task_id", .text ".doc_md = ", .quoted "doc_md", .text "\n"],
    .holes [
      .text "\n"]]

def createLocal : Template where
  name := "create_local"
  parts := [
    .holes [
      .text "def ", .raw "task_id", .text "():\n",
      .text "\n",
      .text "    logging.info(\"\\n\\nExecuting task with id : \x7b\x7d\\n\".format(",
      .quoted "task_id", .text "))\n",
      .text "\n",
      .text "    execute_bq_create_table(gcp_project_id=", .quoted "gcp_project_id", .text ",\n",
      .text "                            force_delete=", .literal "force_delete", .text ",\n",
      .text "                            bq_dataset=", .quoted "bq_dataset", .text ",\n",
      .text "                            bq_table=", .quoted "bq_table", .text ",\n",
      .text "                            bq_table_description=", .quoted "description",
      .text ",\n",
      .text "                            bq_table_schema=", .literal "schema", .text ",\n",
      .text "                            bq_table_clustering_fields=",
      .literal "clustering_fields", .text ",\n",
      .text "                            time_partitioning=", .literal "time_partitioning",
      .text ",\n",
      .text "                            run_locally=True)\n",
      .text "\n"]]

def createDeployable : Template where
  name := "create_deploy"
  parts := [
    .holes [
      .text "    ", .raw "task_id", .text " = PythonOperator(\n",
      .text "        task_id=", .quoted "task_id", .text ",\n",
      .text "        dag=dag,\n",
      .text "        python_callable=execute_bq_create_table,\n",
      .text "        op_kwargs=\x7b\"gcp_project_id\": ", .quoted "gcp_project_id", .text ",\n",
      .text "                   \"force_delete\": ", .literal "force_delete", .text ",\n",
      .text "                   \"bq_dataset\": ", .quoted "bq_dataset", .text ",\n",
      .text "                   \"bq_table\": ", .quoted "bq_table", .text ",\n",
      .text "                   \"bq_table_description\": ", .quoted "description", .text ",\n",
      .text "                   \"bq_table_schema\": ", .literal "schema", .text ",\n",
      .text "                   \"bq_table_clustering_fields\": ", .literal "clustering_fields",
      .text ",\n",
      .text "                   \"time_partitioning\": ", .literal "time_partitioning",
      .text "\x7d\n",
      .text "    )\n"],
    .whenSet "doc_md" [
      .text "    ", .raw "task_id", .text ".doc_md = ", .quoted "doc_md", .text "\n"],
    .holes [
      .text "\n"]]

def machineDeployable : Template where
  name := "vm_deploy"
  parts := [
    .holes [
      .text "    ", .raw "task_id", .text " = ComputeInstanceOperator(\n",
      .text "        task_id=", .quoted "task_id", .text ",\n",
      .text "        dag=dag,\n",
      .text "        gcp_project_id=", .quoted "gcp_project_id", .text ",\n",
      .text "        script_to_execute=", .literal "script_to_execute", .text ",\n",
      .text "        vm_delete=", .literal "vm_delete", .text ",\n",
      .text "        vm_working_directory=", .quoted "vm_working_directory", .text ",\n",
      .text "        vm_compute_zone=", .quoted "vm_compute_zone", .text ",\n",
      .text "        vm_core_number=", .quoted "vm_core_number", .text ",\n",
      .text "        vm_memory_amount=", .quoted "vm_memory_amount", .text ",\n",
      .text "        vm_disk_size=", .quoted "vm_disk_size", .text ",\n",
      .text "        private_key_id=\"COMPOSER_RSA_PRIVATE_KEY_SECRET\"\n",
      .text "    )\n"],
    .whenSet "doc_md" [
      .text "    ", .raw "task_id", .text ".doc_md = ", .quoted "doc_md", .text "\n"],
    .holes [
      .text "\n"]]

/-- The entry point of a local script, which calls the procedures in order. -/
def localMain : Template where
  name := "local_main"
  parts := [
    .holes [
      .text "if __name__ == \"__main__\":\n",
      .text "\n",
      .text "    root = logging.getLogger()\n",
      .text "    root.setLevel(logging.INFO)\n",
      .text "\n",
      .text "    handler = logging.StreamHandler(sys.stdout)\n",
      .text "    handler.setLevel(logging.DEBUG)\n",
      .text "    handler.setFormatter(logging.Formatter(\"%(asctime)s - %(name)s - %(levelname)s - %(message)s\"))\n",
      .text "    root.addHandler(handler)\n",
      .text "\n",
      .text "    warnings.filterwarnings(\"ignore\", \"Your application has authenticated using end user credentials\")\n",
      .text "\n"],
    .each "procedure" "procedures" [
      .text "    ", .raw "procedure", .text "()\n"]]

/-- The edges of a deployable script: the fixed ones, the dependency lines, and three for each task. -/
def wiring : Template where
  name := "wiring"
  parts := [
    .holes [
      .text "\n",
      .text "    # Task dependencies\n",
      .text "    #\n",
      .text "    notify_start >> initialize >> notify_after_config\n",
      .text "    initialize >> notify_deactivated\n"],
    .each "line" "dependency_lines" [
      .text "    ", .raw "line", .text "\n"],
    .each "task_id" "task_ids" [
      .text "    ", .raw "task_id", .text " << notify_after_config\n",
      .text "    ", .raw "task_id", .text " >> notify_success\n",
      .text "    ", .raw "task_id", .text " >> notify_failed\n"]]

def all : List Template :=
  [deployHeader, queryLocal, queryDeployable, copyLocal, copyDeployable,
   createLocal, createDeployable, machineDeployable, localMain, wiring]

def find? (name : String) : Option Template :=
  all.find? (·.name == name)

end WorkflowCompiler.Script.Templates
